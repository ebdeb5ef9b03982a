import Mathlib.Data.List.Nodup
import PanelScript.Json.Decode
import PanelScript.Proofs.Json.Standing

/-!
# Records by their places

A record is decoded from the members of an object. What each of its places is filled with depends
only on the values that stand under its name, so the order of the members does not matter, and
neither do members with other names.

* `valuesOf` are the values under a name, `Filled` says what they make of a place;
* `Layout` is the places of a record; `Layout.decodeMembers_eq_ok_iff` says that each is filled by
  itself;
* `Reads` is how a place is read that has to stand or has a default value;
* `Reshaped` relates members that differ by their order, by unknown members, by default values that
  are left out, and inside of members; `Reshaped.reads_iff`: a place is read alike from both;
* `foldMembers_stand`: members are taken from a text as from the tree.
-/

namespace PanelScript.Json

/-! ### Places -/

/-- The values of the members with a name. -/
def valuesOf (name : String) (ms : List (String × Json)) : List Json :=
  (ms.filter (·.1 == name)).map Prod.snd

section Values

variable {name other : String} {v : Json} {ms ms' : List (String × Json)}

theorem valuesOf_cons_self (name : String) (v : Json) (ms : List (String × Json)) :
    valuesOf name ((name, v) :: ms) = v :: valuesOf name ms := by
  simp [valuesOf]

theorem valuesOf_cons_other (h : other ≠ name) (v : Json) (ms : List (String × Json)) :
    valuesOf name ((other, v) :: ms) = valuesOf name ms := by
  simp [valuesOf, h]

theorem valuesOf_eq_nil (h : ∀ p ∈ ms, p.1 ≠ name) : valuesOf name ms = [] := by
  simpa [valuesOf] using h

theorem valuesOf_perm (h : ms.Perm ms') : (valuesOf name ms).Perm (valuesOf name ms') :=
  (h.filter _).map _

/-- Members with another name can be left out. -/
theorem valuesOf_filter_ne (h : name ≠ other) (ms : List (String × Json)) :
    valuesOf name (ms.filter fun p => p.1 ≠ other) = valuesOf name ms := by
  rw [valuesOf, valuesOf, List.filter_filter]
  congr 1
  refine List.filter_congr fun p _ => ?_
  by_cases e : p.1 = name
  · simp [e, h]
  · simp [e]

end Values

/-- What becomes of a place when values for it are taken one after the other. -/
inductive Filled {α : Type} (decode : Decoder α) : Option α → List Json → Option α → Prop
  | keep (slot : Option α) : Filled decode slot [] slot
  | take {v : Json} {a : α} (h : decode v = .ok a) : Filled decode none [v] (some a)

section Filled

variable {α : Type} {decode : Decoder α} {slot slot' : Option α} {v : Json} {vs : List Json}

theorem filled_nil : Filled decode slot [] slot' ↔ slot = slot' := by
  constructor
  · rintro ⟨⟩
    rfl
  · rintro rfl
    exact .keep slot

theorem filled_cons (name : String) : Filled decode slot (v :: vs) slot' ↔
    ∃ next, decodeOnce name slot decode v = .ok next ∧ Filled decode next vs slot' := by
  constructor
  · rintro ⟨⟩
    rename_i a h
    exact ⟨some a, by rw [decodeOnce, h]; rfl, .keep _⟩
  · rintro ⟨next, taken, rest⟩
    unfold decodeOnce at taken
    cases slot with
    | some => cases taken
    | none =>
      obtain ⟨a, h, rfl⟩ := map_eq_ok_iff.1 taken
      cases rest with
      | keep => exact .take h

end Filled

/-- A place of a record, and how it is filled. -/
structure Place (σ : Type) where
  name : String
  Content : Type
  decode : Decoder Content
  get : σ → Option Content
  set : σ → Option Content → σ

/-- Take a member into the place with its name. -/
def takeInto {σ : Type} : List (Place σ) → σ → String → Json → Except Failure σ
  | [], s, _, _ => .ok s
  | p :: places, s, name, v =>
    if name = p.name then (decodeOnce name (p.get s) p.decode v).map (p.set s)
    else takeInto places s name v

/-- The places of a record: they have different names, and a record is what is in its places. -/
structure Layout (σ : Type) where
  places : List (Place σ)
  nodup : (places.map Place.name).Nodup
  get_set : ∀ p ∈ places, ∀ s x, p.get (p.set s x) = x
  apart : ∀ p ∈ places, ∀ q ∈ places, p.name ≠ q.name → ∀ s x, q.get (p.set s x) = q.get s
  ext : ∀ s t, (∀ p ∈ places, p.get s = p.get t) → s = t

/-- The names that a record knows. -/
def Layout.known {σ : Type} (l : Layout σ) : List String := l.places.map Place.name

section Layout

variable {σ : Type} {places : List (Place σ)} {s t : σ} {name : String} {v : Json}

theorem takeInto_of_mem {p : Place σ} (h : p ∈ places) (nodup : (places.map Place.name).Nodup) :
    takeInto places s p.name v = (decodeOnce p.name (p.get s) p.decode v).map (p.set s) := by
  induction places with
  | nil => cases h
  | cons q places ih =>
    rw [List.map_cons, List.nodup_cons] at nodup
    rw [takeInto]
    rcases List.mem_cons.1 h with rfl | h
    · rw [if_pos rfl]
    · have other : p.name ≠ q.name := by
        intro same
        exact nodup.1 (same ▸ List.mem_map_of_mem h)
      rw [if_neg other, ih h nodup.2]

theorem takeInto_of_unknown (h : ∀ p ∈ places, p.name ≠ name) :
    takeInto places s name v = .ok s := by
  induction places with
  | nil => rfl
  | cons p places ih =>
    rw [takeInto, if_neg (Ne.symm (h p List.mem_cons_self))]
    exact ih fun q hq => h q (List.mem_cons_of_mem p hq)

/-- **The places of a record are filled one by one.** The members of an object are taken into a
record exactly if each place is filled with what stands under its name. -/
theorem Layout.decodeMembers_eq_ok_iff (l : Layout σ) {ms : List (String × Json)} :
    decodeMembers (takeInto l.places) s ms = .ok t ↔
      ∀ p ∈ l.places, Filled p.decode (p.get s) (valuesOf p.name ms) (p.get t) := by
  induction ms generalizing s with
  | nil =>
    rw [decodeMembers, Except.ok.injEq]
    constructor
    · rintro rfl p _
      exact .keep _
    · exact fun h => l.ext s t fun p hp => filled_nil.1 (h p hp)
  | cons m ms ih =>
    obtain ⟨name, v⟩ := m
    rw [decodeMembers, bind_eq_ok_iff]
    by_cases known : ∃ p ∈ l.places, p.name = name
    · obtain ⟨p, hp, rfl⟩ := known
      rw [takeInto_of_mem hp l.nodup]
      -- Another place has another name, and is not changed.
      have other {q : Place σ} (hq : q ∈ l.places) : q = p ∨ p.name ≠ q.name :=
        (em (q = p)).imp_right fun ne same =>
          ne (List.inj_on_of_nodup_map l.nodup hq hp same.symm)
      constructor
      · rintro ⟨u, taken, rest⟩ q hq
        obtain ⟨x, decoded, rfl⟩ := map_eq_ok_iff.1 taken
        have filled := ih.1 rest q hq
        rcases other hq with rfl | ne
        · rw [l.get_set _ hq] at filled
          rw [valuesOf_cons_self, filled_cons _]
          exact ⟨x, decoded, filled⟩
        · rw [l.apart _ hp _ hq ne] at filled
          rwa [valuesOf_cons_other ne]
      · intro h
        have own := h p hp
        rw [valuesOf_cons_self, filled_cons p.name] at own
        obtain ⟨x, decoded, filled⟩ := own
        refine ⟨p.set s x, map_eq_ok_iff.2 ⟨x, decoded, rfl⟩, ih.2 fun q hq => ?_⟩
        rcases other hq with rfl | ne
        · rwa [l.get_set _ hq]
        · rw [l.apart _ hp _ hq ne]
          have filled := h q hq
          rwa [valuesOf_cons_other ne] at filled
    · have unknown : ∀ p ∈ l.places, p.name ≠ name := fun p hp same => known ⟨p, hp, same⟩
      rw [takeInto_of_unknown unknown]
      have same : (∀ p ∈ l.places, Filled p.decode (p.get s) (valuesOf p.name ((name, v) :: ms))
          (p.get t)) ↔ ∀ p ∈ l.places, Filled p.decode (p.get s) (valuesOf p.name ms) (p.get t) :=
        forall₂_congr fun p hp => by rw [valuesOf_cons_other (unknown p hp).symm]
      rw [same, ← ih]
      simp

end Layout

/-! ### Places that have to stand, and places with a default value -/

section Reads

variable {α : Type} {decode : Decoder α} {default : Option α} {v : Json} {vs vs' : List Json}
  {a : α}

/-- What is read from the values under a name: what the only one of them denotes, or the default
value if there is none. -/
def Reads (decode : Decoder α) (default : Option α) (vs : List Json) (a : α) : Prop :=
  (vs = [] ∧ default = some a) ∨ ∃ v, vs = [v] ∧ decode v = .ok a

/-- A place that has to stand. -/
theorem filled_none_some_iff : Filled decode none vs (some a) ↔ Reads decode none vs a := by
  constructor
  · rintro ⟨⟩
    rename_i v h
    exact .inr ⟨v, rfl, h⟩
  · rintro (⟨-, none⟩ | ⟨v, rfl, h⟩)
    · cases none
    · exact .take h

/-- A place with a default value. -/
theorem filled_getD_iff (d : α) :
    (∃ slot, Filled decode none vs slot ∧ slot.getD d = a) ↔ Reads decode (some d) vs a := by
  constructor
  · rintro ⟨slot, filled, rfl⟩
    cases filled with
    | keep => exact .inl ⟨rfl, rfl⟩
    | take h => exact .inr ⟨_, rfl, h⟩
  · rintro (⟨rfl, h⟩ | ⟨v, rfl, h⟩)
    · exact ⟨none, .keep _, Option.some.inj h⟩
    · exact ⟨some a, .take h, rfl⟩

theorem reads_cons : Reads decode default (v :: vs) a ↔ vs = [] ∧ decode v = .ok a := by
  simp only [Reads, List.cons.injEq, reduceCtorEq, false_and, false_or]
  constructor
  · rintro ⟨w, ⟨rfl, rfl⟩, h⟩
    exact ⟨rfl, h⟩
  · rintro ⟨rfl, h⟩
    exact ⟨v, ⟨rfl, rfl⟩, h⟩

theorem Reads.of_perm (h : Reads decode default vs a) (same : vs.Perm vs') :
    Reads decode default vs' a := by
  obtain ⟨rfl, h⟩ | ⟨v, rfl, h⟩ := h
  · exact .inl ⟨same.symm.eq_nil, h⟩
  · exact .inr ⟨v, List.singleton_perm.1 same |>.symm, h⟩

end Reads

/-- Two members say the same to a decoder: it makes the same of both. -/
def Alike {α : Type} (decode : Decoder α) (v v' : Json) : Prop :=
  ∀ a, decode v = .ok a ↔ decode v' = .ok a

/-- Members that differ by their order, by members with unknown names, by default values that are
left out, and inside of members. -/
inductive Reshaped (names : List String) (defaults : List (String × Json))
    (inner : String → Json → Json → Prop) : List (String × Json) → List (String × Json) → Prop
  | perm {ms ms' : List (String × Json)} (h : ms.Perm ms') : Reshaped names defaults inner ms ms'
  | unknown {name : String} (h : name ∉ names) (v : Json) (ms : List (String × Json)) :
      Reshaped names defaults inner ((name, v) :: ms) ms
  | default {p : String × Json} {ms : List (String × Json)} (h : p ∈ defaults)
      (absent : ∀ q ∈ ms, q.1 ≠ p.1) : Reshaped names defaults inner (p :: ms) ms
  | inside {name : String} {v v' : Json} (h : inner name v v') (ms : List (String × Json)) :
      Reshaped names defaults inner ((name, v) :: ms) ((name, v') :: ms)
  | symm {ms ms' : List (String × Json)} (h : Reshaped names defaults inner ms ms') :
      Reshaped names defaults inner ms' ms
  | trans {ms ms' ms'' : List (String × Json)} (h : Reshaped names defaults inner ms ms')
      (h' : Reshaped names defaults inner ms' ms'') : Reshaped names defaults inner ms ms''

/-- **A place is read alike from members that are reshaped**, if its default value is what is left
out, and if what differs inside of its value makes no difference to its decoder. -/
theorem Reshaped.reads_iff {names : List String} {defaults : List (String × Json)}
    {inner : String → Json → Json → Prop} {ms ms' : List (String × Json)}
    (h : Reshaped names defaults inner ms ms') {name : String} (known : name ∈ names)
    {α : Type} {decode : Decoder α} {default : Option α}
    (left : ∀ v, (name, v) ∈ defaults → ∃ a, default = some a ∧ decode v = .ok a)
    (alike : ∀ v v', inner name v v' → Alike decode v v') (a : α) :
    Reads decode default (valuesOf name ms) a ↔ Reads decode default (valuesOf name ms') a := by
  induction h with
  | @perm ms ms' h =>
    have same : (valuesOf name ms).Perm (valuesOf name ms') := valuesOf_perm h
    exact ⟨fun r => r.of_perm same, fun r => r.of_perm same.symm⟩
  | @unknown given h v ms =>
    have other : given ≠ name := by
      rintro rfl
      exact h known
    rw [valuesOf_cons_other other]
  | @default p ms h absent =>
    obtain ⟨given, v⟩ := p
    by_cases same : given = name
    · subst same
      obtain ⟨b, rfl, decoded⟩ := left v h
      rw [valuesOf_cons_self, valuesOf_eq_nil absent, reads_cons, decoded]
      simp [Reads]
    · rw [valuesOf_cons_other same]
  | @inside given v v' h ms =>
    by_cases same : given = name
    · subst same
      rw [valuesOf_cons_self, valuesOf_cons_self, reads_cons, reads_cons, alike v v' h a]
    · rw [valuesOf_cons_other same, valuesOf_cons_other same]
  | symm h ih => exact ih.symm
  | trans h h' ih ih' => exact ih.trans ih'

/-- Lists whose items are alike are alike. -/
theorem alike_arr {α : Type} {decode : Decoder α} {items items' : List Json}
    (h : List.Forall₂ (Alike decode) items items') :
    Alike (asList decode) (.arr items) (.arr items') := by
  show ∀ as, items.mapM decode = .ok as ↔ items'.mapM decode = .ok as
  induction h with
  | nil => exact fun _ => Iff.rfl
  | cons item others ih =>
    intro as
    rw [List.mapM_cons, List.mapM_cons, bind_eq_ok_iff, bind_eq_ok_iff]
    refine exists_congr fun a => and_congr (item a) ?_
    rw [bind_eq_ok_iff, bind_eq_ok_iff]
    exact exists_congr fun bs => and_congr (ih bs) Iff.rfl

/-! ### Members of a text -/

/-- Members are taken from a text as from the tree, if each is. -/
theorem foldMembers_stand {σ : Type} {step : σ → String → Reader σ}
    {take : σ → String × Json → Option σ} {d : Nat}
    (each : ∀ s name cs cs' v rest, skipSpace cs = ':' :: cs' → value d cs' = .ok (v, rest) →
      (step s name cs).toOption = (take s (name, v)).map (·, rest))
    {first : Bool} {cs rest : List Char} {members : List (String × Json)}
    (h : MembersStand (value d) first cs members rest) {fuel : Nat} (lt : members.length < fuel)
    (s : σ) :
    (foldMembers step fuel first s cs).toOption =
      (members.foldlM take s).map (·, '\x7d' :: rest) := by
  induction h generalizing fuel s with
  | nil closes =>
    obtain ⟨fuel, rfl⟩ := Nat.exists_eq_succ_of_ne_zero (Nat.ne_of_gt lt)
    rw [foldMembers, foldMembersBy, nextMember_eq_ok_iff.2 (.none closes)]
    rfl
  | cons next named colon member others ih =>
    obtain ⟨fuel, rfl⟩ := Nat.exists_eq_succ_of_ne_zero (Nat.ne_of_gt (Nat.zero_lt_of_lt lt))
    have tail := ih (Nat.lt_of_succ_lt_succ lt)
    rw [foldMembers, foldMembersBy, nextMember_eq_ok_iff.2 next]
    show (readString _ >>= fun p => step s p.1 p.2 >>= fun q => _).toOption = _
    rw [named, ok_bind]
    show (step s _ _ >>= fun q => foldMembers step fuel false q.1 q.2).toOption = _
    rw [toOption_bind, each _ _ _ _ _ _ colon member, List.foldlM_cons]
    cases take s _ with
    | none => rfl
    | some s => exact tail s

end PanelScript.Json
