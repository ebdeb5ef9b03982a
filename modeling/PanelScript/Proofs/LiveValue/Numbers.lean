import PanelScript.LiveValue.Reading
import PanelScript.Proofs.Decimal.Integers

/-!
# Values read as numbers

A value is read as a number, as an integer and as an array of numbers. The three readings agree on
which values are numbers at all, and on which number comes first. A plain integer is read exactly;
the index of an enumerated value and the head of an array come to the integer by way of a binary64
number.

* `Json.Shows` says which integer a value shows, however deep it stands;
* `LiveValue.numeric?_of_shows`: whatever shows an integer reads as the number nearest to it;
* `LiveValue.integer_shown`: how far off the integer reading then is, and when it is exact;
* `LiveValue.readings_cohere`: the three readings of one value.
-/

namespace PanelScript

/-- A value shows an integer: a plain integer itself, an enumerated value its index, and an array
what its first element shows. -/
inductive Json.Shows (n : Int) : Json → Prop where
  | plain : Shows n (.num (.int n))
  | index {v : Json} {labels : List Json} (h : v.enum? = some (n, labels)) : Shows n v
  | first {v : Json} (rest : List Json) (h : Shows n v) : Shows n (.arr (v :: rest))

namespace LiveValue

variable {v : LiveValue} {n : Int}

/-- Whatever shows an integer reads as the number nearest to it. -/
theorem numeric?_of_shows {w : Json} (h : w.Shows n) : w.numeric? = some (.ofInt n) := by
  induction h with
  | plain => simp [Json.numeric?, Json.Number.toBinary64]
  | @index v labels h =>
    cases v with
    | obj members => simp [Json.numeric?, h]
    | _ => simp [Json.enum?, Json.member?] at h
  | first rest _ ih => simpa [Json.numeric?] using ih

/-- What is no plain number is read as an integer by way of the number. -/
theorem integer?_eq (h : ∀ m, v.value ≠ .num m) : v.integer? = v.number?.map Binary64.toInt64 := by
  unfold integer?
  split
  · rename_i m e
    exact absurd e (h m)
  · rfl

/-- **The integer that a value shows.** A plain integer of 64 bits is read exactly. The index of an
enumerated value, or an integer that stands first in an array, however deep, is rounded to a
binary64 number on the way: what is read is off by at most half the distance of the numbers around
it, which is one up to `2 ^ 53`, and it is exact only for the multiples of that distance and for the
greatest integer of all. -/
theorem integer_shown (low : Binary64.int64Min ≤ n) (high : n ≤ Binary64.int64Max)
    (h : v.value.Shows n) :
    (v.value = .num (.int n) → v.integer? = some n) ∧
      (v.value ≠ .num (.int n) → ∃ m, v.integer? = some m ∧
        2 * (m - n).natAbs ≤ Binary64.spacing n.natAbs ∧
        (m = n ↔ (Binary64.spacing n.natAbs : Int) ∣ n ∨ n = Binary64.int64Max)) := by
  refine ⟨fun plain => ?_, fun deep => ?_⟩
  · simp [integer?, plain, Json.Number.int64?, high]
  · have other : ∀ m, v.value ≠ .num m := by
      intro m e
      rw [e] at h deep
      cases h with
      | plain => exact deep rfl
      | index h => cases h
    refine ⟨(Binary64.ofInt n).toInt64, ?_, Binary64.toInt64_ofInt low high⟩
    rw [integer?_eq other, number?, numeric?_of_shows h, Option.map_some]

/-- The index of an enumerated value inside two arrays. -/
theorem integer_shown_sample : ∃ v : LiveValue,
    v.value = .arr [.arr [.obj [("index", .ofInt (-9007199254740994)), ("labels", .arr [])], .null]] ∧
    v.value.Shows (-9007199254740994) ∧ v.integer? = some (-9007199254740994) := by
  have shows : Json.Shows (-9007199254740994)
      (.arr [.arr [.obj [("index", .ofInt (-9007199254740994)), ("labels", .arr [])], .null]]) :=
    .first _ (.first _ (.index (show Json.enum? _ = some (_, []) from rfl)))
  obtain ⟨m, read, -, exact⟩ := (integer_shown (v := ⟨"mode", _, ⟨0, 0⟩, .good⟩) (by decide)
    (by decide) shows).2 (by simp)
  obtain rfl := exact.2 (.inl (by decide))
  exact ⟨_, rfl, shows, read⟩

/-- An enumerated value whose index, `2 ^ 53 + 1`, lies between two numbers. -/
def oddIndex : Json := .obj [("index", .ofInt 9007199254740993), ("labels", .arr [.str "on"])]

/-- An index between two numbers reads as another integer, alone and at the head of an array, and so
does a plain integer at the head of an array. -/
theorem odd_index_is_lost :
    (oddIndex.Shows 9007199254740993 ∧
      (ofValue "mode" oddIndex ⟨0, 0⟩).integer? = some 9007199254740992) ∧
    (Json.Shows 9007199254740993 (.arr [oddIndex]) ∧
      (ofValue "mode" (.arr [oddIndex]) ⟨0, 0⟩).integer? = some 9007199254740992) ∧
    (Json.Shows 9007199254740993 (.arr [.ofInt 9007199254740993]) ∧
      (ofValue "mode" (.arr [.ofInt 9007199254740993]) ⟨0, 0⟩).integer? =
        some 9007199254740992) := by
  have index : oddIndex.Shows 9007199254740993 :=
    .index (show oddIndex.enum? = some (_, [.str "on"]) from rfl)
  exact ⟨⟨index, by decide +kernel⟩, ⟨.first _ index, by decide +kernel⟩,
    ⟨.first _ .plain, by decide +kernel⟩⟩

/-! ### The three readings of one value -/

/-- An element of an array, as a value of its own. -/
def element (v : LiveValue) (item : Json) : LiveValue := { v with value := item }

theorem numbers_of_arr {items : List Json} (h : v.value = .arr items) :
    v.numbers = items.filterMap fun item => (v.element item).number? := by
  unfold numbers
  rw [h]
  rfl

/-- The number that a value reads as comes first in the array that it reads as. -/
theorem head?_numbers {x : Binary64} (h : v.number? = some x) : v.numbers.head? = some x := by
  unfold numbers
  split
  · rename_i items e
    unfold number? at h
    rw [e] at h
    cases items with
    | nil => simp [Json.numeric?] at h
    | cons first rest =>
      rw [Json.numeric?] at h
      rw [List.filterMap_cons_some h, List.head?_cons]
  · rename_i other _
    unfold number? at h
    simp [h]

theorem map_some_filterMap {α β : Type} (f : α → Option β) (items : List α) :
    (items.filterMap f).map some = (items.map f).filter Option.isSome := by
  induction items with
  | nil => rfl
  | cons item rest ih => cases e : f item <;> simpa [e] using ih

/-- **The readings of one value cohere.** A value reads as an integer exactly if it reads as a
number. The number is then the first of the array that the value reads as. The array that an array
reads as are the numbers of those elements that read as one, in order; so it is put together from
the arrays that its parts read as. -/
theorem readings_cohere (v : LiveValue) :
    v.integer?.isSome = v.number?.isSome ∧
    (∀ x, v.number? = some x → v.numbers.head? = some x) ∧
    (∀ items, v.value = .arr items →
      v.numbers.map some = (items.map fun item => (v.element item).number?).filter Option.isSome) ∧
    ∀ front back, (v.element (.arr (front ++ back))).numbers =
      (v.element (.arr front)).numbers ++ (v.element (.arr back)).numbers := by
  refine ⟨?_, fun x => head?_numbers, fun items h => ?_, fun front back => ?_⟩
  · by_cases plain : ∃ m, v.value = .num m
    · obtain ⟨m, e⟩ := plain
      simp [integer?, number?, e, Json.numeric?]
    · rw [integer?_eq fun m e => plain ⟨m, e⟩, Option.isSome_map]
  · rw [numbers_of_arr h, map_some_filterMap]
  · rw [numbers_of_arr rfl, numbers_of_arr rfl, numbers_of_arr rfl]
    exact List.filterMap_append

/-- An array that begins with an array, and in which two elements read as no number. -/
def mixed : LiveValue :=
  .ofValue "wave" (.arr [.arr [.bool true, .null], .str "on", oddIndex, .arr [], .str " 2\n"]) ⟨0, 0⟩

theorem readings_cohere_sample : mixed.number? = some (.ofNat 1) ∧
    mixed.numbers.head? = some (.ofNat 1) ∧
    mixed.numbers.map some =
      [some (.ofNat 1), some (.ofNat 9007199254740992), some (.ofNat 2)] := by
  have number : mixed.number? = some (.ofNat 1) := by decide +kernel
  obtain ⟨-, head, all, -⟩ := readings_cohere mixed
  exact ⟨number, head _ number, (all _ rfl).trans (by decide +kernel)⟩

end LiveValue

end PanelScript
