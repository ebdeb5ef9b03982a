import Mathlib.Data.List.Forall2
import Mathlib.Data.List.Induction
import PanelScript.Proofs.Json.ReadBack
import PanelScript.Runner.Arguments

/-!
# Command lines

A command line is accepted word by word, and what a word means depends on those before it. What is
accepted can be said of the words as a whole: some are options, with a value in the same word or in
the next one, the others are the script and the inputs, in this order, and behind `--` all are.

* `Arguments.Reads` says how words are told apart;
* `Arguments.Draft.Owes` says what the words that are left have to be, once some were read, and
  `owes_of_foldlM` that they are;
* `lookup_foldl`: of values that are given to names one after the other the last counts;
* `Arguments.reads_of_parse`: what the arguments are if a command line is accepted;
* `Arguments.lookup_macroTable`: which macro counts.
-/

namespace PanelScript

open Json (bind_eq_ok_iff map_eq_ok_iff)

/-! ### Pairs -/

/-- A word is a name, `=`, and a text; the name is not empty and without `=`. -/
def IsPair (word name text : String) : Prop :=
  name ≠ "" ∧ '=' ∉ name.toList ∧ word = name ++ "=" ++ text

/-- A text stands for a value: for what it denotes as JSON, or for itself if it is none. -/
def StandsFor (text : String) (v : Json) : Prop :=
  Json.parseValue text = .ok v ∨ (∃ e, Json.parseValue text = .error e) ∧ v = .str text

theorem standsFor_pairValue (text : String) : StandsFor text (pairValue text) := by
  unfold pairValue
  split
  · rename_i v h
    exact .inl h
  · rename_i e h
    exact .inr ⟨⟨e, h⟩, rfl⟩

theorem bindingPair_eq_ok {word : String} {p : String × Json} (h : bindingPair word = .ok p) :
    ∃ text, IsPair word p.1 text ∧ StandsFor text p.2 := by
  obtain ⟨⟨name, text⟩, split, rfl⟩ := map_eq_ok_iff.1 h
  exact ⟨text, splitPair_eq_ok split, standsFor_pairValue text⟩

theorem lookup_cons_eq_ite {β : Type} (p : String × β) (ps : List (String × β)) (name : String) :
    (p :: ps).lookup name = if name = p.1 then some p.2 else ps.lookup name := by
  rw [List.lookup_cons]
  by_cases same : name = p.1
  · rw [if_pos same, beq_iff_eq.2 same]
  · rw [if_neg same, beq_false_of_ne same]

/-- Names are given values one after the other, and of those with one name the last counts. -/
theorem lookup_foldl {σ β : Type} (find : String → σ → Option β) {put : σ → String × β → σ}
    (each : ∀ s p name, find name (put s p) = if name = p.1 then some p.2 else find name s)
    (ps : List (String × β)) (s : σ) (name : String) :
    find name (ps.foldl put s) = (ps.reverse.lookup name).or (find name s) := by
  induction ps generalizing s with
  | nil => rfl
  | cons p ps ih =>
    rw [List.foldl_cons, ih, each, List.reverse_cons, List.lookup_append, Option.or_assoc,
      lookup_cons_eq_ite]
    congr 1
    split <;> rfl

namespace Arguments

/-! ### Words -/

/-- The short word for an option. -/
def ValueOption.short : ValueOption → String
  | .defineMacro => "-m"
  | .setProperty => "-p"

/-- The long word for an option. -/
def ValueOption.long : ValueOption → String
  | .defineMacro => "--macro"
  | .setProperty => "--property"

/-- A word is an option, with the value that stands in it, if one does. -/
inductive IsOption (o : ValueOption) : String → Option String → Prop
  | short : IsOption o o.short none
  | long : IsOption o o.long none
  | shortEquals (value : String) : IsOption o (o.short ++ "=" ++ value) (some value)
  | longEquals (value : String) : IsOption o (o.long ++ "=" ++ value) (some value)
  | joined {value : String} (nonempty : value ≠ "") (h : value.toList.head? ≠ some '=') :
    IsOption o (o.short ++ value) (some value)

/-- A word that is no option: it does not begin with `-`, or there is nothing behind that. -/
def IsPlain (w : String) : Prop := w = "-" ∨ w.toList.head? ≠ some '-'

/-- The words of a command line are options with their values, and others; behind `--` there are no
options. -/
inductive Reads : List String → List (ValueOption × String) → List String → Prop
  | done : Reads [] [] []
  | dashes (words : List String) : Reads ("--" :: words) [] words
  | attached {w value : String} {o : ValueOption} {words : List String}
    {options : List (ValueOption × String)} {others : List String} (h : IsOption o w (some value))
    (rest : Reads words options others) : Reads (w :: words) ((o, value) :: options) others
  | detached {w value : String} {o : ValueOption} {words : List String}
    {options : List (ValueOption × String)} {others : List String} (h : IsOption o w none)
    (plain : IsPlain value) (rest : Reads words options others) :
    Reads (w :: value :: words) ((o, value) :: options) others
  | plain {w : String} {words : List String} {options : List (ValueOption × String)}
    {others : List String} (h : IsPlain w) (rest : Reads words options others) :
    Reads (w :: words) options (w :: others)

namespace Draft

variable {d d' t : Draft} {w : String} {words : List String} {o : ValueOption} {a : Arguments}

theorem help_ne_ok : d.help ≠ .ok d' := by
  unfold help
  cases d.settle <;> simp [Except.bind]

theorem option_of_longOption {name : List Char} {value : Option String}
    (h : d.longOption name value = .ok d') :
    ∃ o : ValueOption, o.long.toList = '-' :: '-' :: name ∧ d.option o value = .ok d' := by
  unfold longOption at h
  split at h
  · rename_i o found
    refine ⟨o, ?_, h⟩
    unfold ValueOption.ofLong? at found
    split_ifs at found with first second
    · cases found
      rw [first]
      rfl
    · cases found
      rw [second]
      rfl
  · split_ifs at h
    · split at h
      · cases h
      · exact absurd h help_ne_ok

theorem option_of_shortOptions {c : Char} {rest : List Char}
    (h : d.shortOptions (c :: rest) = .ok d') :
    ∃ o value, IsOption o (String.ofList ('-' :: c :: rest)) value ∧ d.option o value = .ok d' := by
  rw [shortOptions.eq_def] at h
  dsimp only at h
  split at h
  · rename_i o found
    have short : o.short = String.ofList ['-', c] := by
      unfold ValueOption.ofShort? at found
      split_ifs at found with first second
      · cases found
        rw [first]
        rfl
      · cases found
        rw [second]
        rfl
    refine ⟨o, _, ?_, h⟩
    split
    · rw [← short]
      exact .short
    · rename_i value
      have word : String.ofList ('-' :: c :: '=' :: value) =
          o.short ++ "=" ++ String.ofList value := by
        rw [short]
        apply String.toList_injective
        simp
      rw [word]
      exact .shortEquals _
    · rename_i nonempty other
      have word : String.ofList ('-' :: c :: rest) = o.short ++ String.ofList rest := by
        rw [short]
        apply String.toList_injective
        simp
      rw [word]
      refine .joined (fun e => nonempty ?_) ?_
      · simpa using congrArg String.toList e
      · rw [String.toList_ofList]
        cases rest with
        | nil => simp
        | cons x rest =>
          rintro e
          obtain rfl := Option.some.inj e
          exact other rest rfl
  · split_ifs at h
    exact absurd h help_ne_ok

/-- A word before `--` is `--` itself, an option, or a plain word. -/
theorem step_cases (before : d.trailing = false) (h : d.step w = .ok d') :
    w = "--" ∧ d' = { d with trailing := true } ∨
      (∃ o value, IsOption o w value ∧ d.option o value = .ok d') ∨
      IsPlain w ∧ d.word w = .ok d' := by
  have word : w = String.ofList w.toList := String.ofList_toList.symm
  rw [step, if_neg (by simp [before])] at h
  split at h
  · rename_i chars
    rw [chars] at word
    exact .inl ⟨word, (Except.ok.inj h).symm⟩
  · rename_i rest _ chars
    obtain ⟨o, long, h⟩ := option_of_longOption h
    refine .inr (.inl ⟨o, _, ?_, h⟩)
    have parts := List.takeWhile_append_dropWhile (p := (· ≠ '=')) (l := rest)
    have first := List.head?_dropWhile_not (· ≠ '=') rest
    split
    · rename_i c value behind
      rw [behind] at parts first
      obtain rfl : c = '=' := by simpa using first
      have whole : w = o.long ++ "=" ++ String.ofList value := by
        apply String.toList_injective
        rw [chars, ← parts, String.toList_append, String.toList_append, long]
        simp
      rw [whole]
      exact .longEquals _
    · rename_i behind
      rw [behind, List.append_nil] at parts
      rw [parts, ← chars] at long
      rw [← String.toList_injective long]
      exact .long
  · rename_i c rest _ _ chars
    obtain ⟨o, value, isOption, h⟩ := option_of_shortOptions h
    rw [chars] at word
    exact .inr (.inl ⟨o, value, word ▸ isOption, h⟩)
  · rename_i dashes long short
    refine .inr (.inr ⟨?_, h⟩)
    unfold IsPlain
    cases chars : w.toList with
    | nil => simp
    | cons c rest =>
      by_cases dash : c = '-'
      · subst dash
        cases rest with
        | nil =>
          rw [chars] at word
          exact .inl word
        | cons c rest => exact absurd chars (short c rest)
      · exact .inr fun e => dash (Option.some.inj e)

/-! ### What was read so far -/

/-- As long as no script was seen, none was read and none is pending. -/
def IsSound (d : Draft) : Prop :=
  d.hasScript = false → d.script = none ∧ ∀ w, d.pending ≠ some (.script w)

theorem takeOption_keeps {value : String} (h : d.takeOption o value = .ok d') :
    d'.trailing = d.trailing ∧ d'.hasScript = d.hasScript ∧ d'.awaitsValue = d.awaitsValue ∧
      d'.pending = d.pending ∧ d'.script = d.script := by
  cases o <;>
  · obtain ⟨p, -, rfl⟩ := map_eq_ok_iff.1 h
    exact ⟨rfl, rfl, rfl, rfl, rfl⟩

/-- Reading what is pending leaves nothing pending, and else changes only what was read. -/
theorem settle_keeps (h : d.settle = .ok t) :
    t.trailing = d.trailing ∧ t.hasScript = d.hasScript ∧ t.awaitsValue = d.awaitsValue ∧
      t.pending = none ∧ ((∀ w, d.pending ≠ some (.script w)) → t.script = d.script) := by
  unfold settle at h
  dsimp only at h
  split at h
  · cases h
    exact ⟨rfl, rfl, rfl, rfl, fun _ => rfl⟩
  · cases h
  · obtain ⟨trailing, hasScript, awaits, pending, script⟩ := takeOption_keeps h
    exact ⟨trailing, hasScript, awaits, pending, fun _ => script⟩
  · rename_i w pending
    split_ifs at h
    cases h
    exact ⟨rfl, rfl, rfl, rfl, fun other => absurd pending (other w)⟩
  · obtain ⟨ps, -, rfl⟩ := map_eq_ok_iff.1 h
    exact ⟨rfl, rfl, rfl, rfl, fun _ => rfl⟩

theorem IsSound.settle (sound : d.IsSound) (h : d.settle = .ok t) : t.IsSound := by
  obtain ⟨-, hasScript, -, pending, script⟩ := settle_keeps h
  intro none
  rw [hasScript] at none
  obtain ⟨unread, other⟩ := sound none
  exact ⟨(script other).trans unread, by simp [pending]⟩

end Draft

/-! ### What is left -/

/-- The values of one option, in order. -/
def textsOf (o : ValueOption) (options : List (ValueOption × String)) : List String :=
  (options.filter (·.1 = o)).map Prod.snd

/-- With the given options and other words behind it, what was read so far is completed to the
arguments. -/
structure Draft.Completes (d : Draft) (options : List (ValueOption × String))
    (others : List String) (a : Arguments) : Prop where
  macros : ∃ ms, a.macros = d.macros ++ ms ∧
    List.Forall₂ (fun w p => splitPair w = .ok p) (textsOf .defineMacro options) ms
  properties : ∃ ps, a.properties = d.properties ++ ps ∧
    List.Forall₂ (fun w p => bindingPair w = .ok p) (textsOf .setProperty options) ps
  positional : ∃ words ps, a.inputs = d.inputs ++ ps ∧
    List.Forall₂ (fun w p => bindingPair w = .ok p) words ps ∧
    if d.hasScript then d.script = some a.script ∧ others = words
    else a.script ≠ "" ∧ others = a.script :: words

namespace Draft

variable {d d' t : Draft} {w : String} {words others : List String} {o : ValueOption}
  {a : Arguments} {options : List (ValueOption × String)}

/-- What was read so far and what is pending is completed to the arguments. -/
def Owes (d : Draft) (options : List (ValueOption × String)) (others : List String)
    (a : Arguments) : Prop :=
  ∃ t, d.settle = .ok t ∧ t.Completes options others a

theorem owes_of_finish (sound : d.IsSound) (h : d.finish = .ok a) : d.Owes [] [] a := by
  obtain ⟨t, settled, h⟩ := bind_eq_ok_iff.1 h
  refine ⟨t, settled, ?_⟩
  split at h
  · rename_i script found
    cases h
    refine ⟨⟨[], (List.append_nil _).symm, .nil⟩, ⟨[], (List.append_nil _).symm, .nil⟩,
      ⟨[], [], (List.append_nil _).symm, .nil, ?_⟩⟩
    cases seen : t.hasScript with
    | true => exact ⟨found, rfl⟩
    | false =>
      rw [((sound.settle settled) seen).1] at found
      cases found
  · cases h

/-- An option is read with its value. -/
theorem Completes.takeOption {value : String} (c : d'.Completes options others a)
    (h : d.takeOption o value = .ok d') : d.Completes ((o, value) :: options) others a := by
  cases o with
  | defineMacro =>
    obtain ⟨p, pair, rfl⟩ := map_eq_ok_iff.1 h
    obtain ⟨⟨ms, read, each⟩, properties, positional⟩ := c
    refine ⟨⟨p :: ms, ?_, ?_⟩, properties, positional⟩
    · rw [read, List.append_assoc, List.singleton_append]
    · exact .cons pair each
  | setProperty =>
    obtain ⟨p, pair, rfl⟩ := map_eq_ok_iff.1 h
    obtain ⟨macros, ⟨ps, read, each⟩, positional⟩ := c
    refine ⟨macros, ⟨p :: ps, ?_, ?_⟩, positional⟩
    · rw [read, List.append_assoc, List.singleton_append]
    · exact .cons pair each

/-- An option with a value is read at once. -/
theorem owes_of_attached {value : String} (h : d.option o (some value) = .ok d')
    (rest : d'.Owes options others a) : d.Owes ((o, value) :: options) others a := by
  obtain ⟨t, settled, h⟩ := bind_eq_ok_iff.1 h
  obtain ⟨t', taken, h⟩ := bind_eq_ok_iff.1 h
  cases h
  obtain ⟨t'', settled', c⟩ := rest
  obtain ⟨-, -, -, none, -⟩ := takeOption_keeps taken
  rw [(settle_keeps settled).2.2.2.1] at none
  simp only [settle, none, Except.ok.injEq] at settled'
  subst settled'
  have c : t'.Completes options others a := ⟨c.macros, c.properties, c.positional⟩
  exact ⟨t, settled, c.takeOption taken⟩

/-- An option without a value is read with the next word. -/
theorem owes_of_detached (settled : d.settle = .ok t)
    (rest : Owes { t with pending := some (.option o (some w)), awaitsValue := false }
      options others a) : d.Owes ((o, w) :: options) others a := by
  obtain ⟨t', settled', c⟩ := rest
  obtain ⟨macros, properties, positional⟩ := c.takeOption settled'
  exact ⟨t, settled, macros, properties, positional⟩

/-- To read what is pending it does not matter whether options may come. -/
theorem owes_of_dashes (h : Owes { d with trailing := true } options others a) :
    d.Owes options others a := by
  obtain ⟨t, settled, macros, properties, positional⟩ := h
  refine ⟨{ t with trailing := d.trailing }, ?_, macros, properties, positional⟩
  unfold settle at settled ⊢
  dsimp only at settled ⊢
  split at settled
  · cases settled
    rfl
  · cases settled
  · rename_i o value _
    cases o <;>
    · obtain ⟨p, pair, rfl⟩ := map_eq_ok_iff.1 settled
      exact map_eq_ok_iff.2 ⟨p, pair, rfl⟩
  · split_ifs at settled with empty
    cases settled
    exact if_neg empty
  · obtain ⟨ps, read, rfl⟩ := map_eq_ok_iff.1 settled
    exact map_eq_ok_iff.2 ⟨ps, read, rfl⟩

theorem mapM_concat_eq_ok {α β ε : Type} {f : α → Except ε β} {as : List α} {x : α} {bs : List β}
    (h : (as ++ [x]).mapM f = .ok bs) :
    ∃ front b, as.mapM f = .ok front ∧ f x = .ok b ∧ bs = front ++ [b] := by
  rw [List.mapM_append] at h
  obtain ⟨front, first, h⟩ := bind_eq_ok_iff.1 h
  obtain ⟨back, second, h⟩ := bind_eq_ok_iff.1 h
  cases h
  rw [List.mapM_cons] at second
  obtain ⟨b, one, second⟩ := bind_eq_ok_iff.1 second
  cases second
  exact ⟨front, b, first, one, rfl⟩

/-- An input is read behind those before it. -/
theorem Completes.input {p : String × Json} (pair : bindingPair w = .ok p)
    (c : { t with inputs := t.inputs ++ [p] }.Completes options others a) (seen : t.hasScript) :
    t.Completes options (w :: others) a := by
  obtain ⟨macros, properties, words, ps, inputs, each, script⟩ := c
  rw [if_pos seen] at script
  refine ⟨macros, properties, w :: words, p :: ps, ?_, .cons pair each, ?_⟩
  · rw [inputs, List.append_assoc, List.singleton_append]
  · rw [if_pos seen, ← script.2]
    exact ⟨script.1, rfl⟩

/-- A word that is no option is the script, or an input behind the script. -/
theorem owes_of_word (free : ¬ (d.awaitsValue ∧ ¬ d.trailing)) (h : d.word w = .ok d')
    (rest : d'.Owes options others a) : d.Owes options (w :: others) a := by
  obtain ⟨t', settled', c⟩ := rest
  rw [word, if_neg free] at h
  by_cases seen : d.hasScript
  · rw [if_neg (not_not.2 seen)] at h
    split at h
    · -- The word joins the inputs that are pending.
      rename_i ws pending
      cases h
      obtain ⟨qs, read, rfl⟩ := map_eq_ok_iff.1 settled'
      obtain ⟨ps, p, before, pair, rfl⟩ := mapM_concat_eq_ok read
      refine ⟨{ d with pending := none, inputs := d.inputs ++ ps }, ?_, ?_⟩
      · simp only [settle, pending, before]
        rfl
      · rw [← List.append_assoc] at c
        exact Completes.input pair ⟨c.macros, c.properties, c.positional⟩ seen
    · obtain ⟨t, settled, h⟩ := bind_eq_ok_iff.1 h
      cases h
      obtain ⟨qs, read, rfl⟩ := map_eq_ok_iff.1 settled'
      obtain ⟨ps, p, before, pair, rfl⟩ :=
        mapM_concat_eq_ok (show ([] ++ [w]).mapM bindingPair = .ok qs from read)
      cases before
      refine ⟨t, settled, Completes.input pair ⟨c.macros, c.properties, c.positional⟩ ?_⟩
      rw [(settle_keeps settled).2.1]
      exact seen
  · rw [if_pos seen] at h
    obtain ⟨t, settled, h⟩ := bind_eq_ok_iff.1 h
    cases h
    have unseen : ¬ t.hasScript := by
      rw [(settle_keeps settled).2.1]
      exact seen
    simp only [settle] at settled'
    split_ifs at settled' with empty
    cases settled'
    obtain ⟨macros, properties, words, ps, inputs, each, script, rfl⟩ := c
    obtain rfl := Option.some.inj script
    refine ⟨t, settled, macros, properties, others, ps, inputs, each, ?_⟩
    rw [if_neg unseen]
    exact ⟨empty, rfl⟩

/-! ### All words -/

theorem IsSound.option {value : Option String} (sound : d.IsSound)
    (h : d.option o value = .ok d') : d'.IsSound := by
  obtain ⟨t, settled, h⟩ := bind_eq_ok_iff.1 h
  have sound := sound.settle settled
  cases value with
  | none =>
    cases h
    exact fun unseen => ⟨(sound unseen).1, by simp⟩
  | some value =>
    obtain ⟨t', taken, h⟩ := bind_eq_ok_iff.1 h
    cases h
    obtain ⟨-, hasScript, -, pending, script⟩ := takeOption_keeps taken
    intro unseen
    rw [show t'.hasScript = t.hasScript from hasScript] at unseen
    exact ⟨script.trans (sound unseen).1, by rw [pending]; exact (sound unseen).2⟩

theorem IsSound.word (sound : d.IsSound) (h : d.word w = .ok d') : d'.IsSound := by
  unfold Draft.word at h
  split_ifs at h with awaits seen
  · split at h <;> cases h
    · exact fun unseen => ⟨(sound unseen).1, by simp⟩
    · exact sound
  · have hasScript : d'.hasScript = true := by
      split at h
      · cases h
        exact seen
      · obtain ⟨t, settled, h⟩ := bind_eq_ok_iff.1 h
        cases h
        exact (settle_keeps settled).2.1.trans seen
    intro unseen
    rw [hasScript] at unseen
    cases unseen
  · obtain ⟨t, -, h⟩ := bind_eq_ok_iff.1 h
    cases h
    simp [IsSound]

theorem IsSound.step (sound : d.IsSound) (h : d.step w = .ok d') : d'.IsSound := by
  cases before : d.trailing with
  | true =>
    rw [Draft.step, if_pos before] at h
    exact sound.word h
  | false =>
    rcases step_cases before h with ⟨-, rfl⟩ | ⟨o, value, -, h⟩ | ⟨-, h⟩
    · exact sound
    · exact sound.option h
    · exact sound.word h

theorem attached_keeps {value : String} (h : d.option o (some value) = .ok d') :
    d'.trailing = d.trailing ∧ d'.awaitsValue = false := by
  obtain ⟨t, settled, h⟩ := bind_eq_ok_iff.1 h
  obtain ⟨t', taken, h⟩ := bind_eq_ok_iff.1 h
  cases h
  exact ⟨(takeOption_keeps taken).1.trans (settle_keeps settled).1, rfl⟩

theorem word_keeps (h : d.word w = .ok d') :
    d'.trailing = d.trailing ∧ (d.awaitsValue = false → d'.awaitsValue = false) := by
  unfold Draft.word at h
  split_ifs at h
  · split at h <;> cases h <;> exact ⟨rfl, fun _ => rfl⟩
  · split at h
    · cases h
      exact ⟨rfl, id⟩
    · obtain ⟨t, settled, h⟩ := bind_eq_ok_iff.1 h
      cases h
      exact ⟨(settle_keeps settled).1, fun _ => rfl⟩
  · obtain ⟨t, settled, h⟩ := bind_eq_ok_iff.1 h
    cases h
    exact ⟨(settle_keeps settled).1, fun _ => rfl⟩

/-- **The words that are left are read.** Behind `--` all of them are plain; a value that is awaited
is the next of them, and it is plain. -/
theorem owes_of_foldlM (sound : d.IsSound) (h : (words.foldlM step d).bind finish = .ok a) :
    (d.trailing = true → d.Owes [] words a) ∧
    (d.trailing = false → d.awaitsValue = false →
      ∃ options others, Reads words options others ∧ d.Owes options others a) ∧
    (d.trailing = false → ∀ (o : ValueOption) (t : Draft),
      d = { t with pending := some (.option o none), awaitsValue := true } →
      ∃ w rest options others, words = w :: rest ∧ IsPlain w ∧ Reads rest options others ∧
        Owes { t with pending := some (.option o (some w)), awaitsValue := false }
          options others a) := by
  induction words generalizing d with
  | nil =>
    have owes := owes_of_finish sound h
    refine ⟨fun _ => owes, fun _ _ => ⟨[], [], .done, owes⟩, ?_⟩
    rintro - o t rfl
    obtain ⟨_, settled, -⟩ := owes
    cases settled
  | cons w words ih =>
    have first : ∃ d', d.step w = .ok d' ∧ (words.foldlM step d').bind finish = .ok a := by
      rw [List.foldlM_cons] at h
      obtain ⟨t, stepped, finished⟩ := bind_eq_ok_iff.1 h
      obtain ⟨d', stepped, rest⟩ := bind_eq_ok_iff.1 stepped
      exact ⟨d', stepped, by rw [rest]; exact finished⟩
    obtain ⟨d', stepped, h⟩ := first
    obtain ⟨behind, reads, awaits⟩ := ih (sound.step stepped) h
    refine ⟨fun trailing => ?_, fun before free => ?_, ?_⟩
    · rw [step, if_pos trailing] at stepped
      refine owes_of_word (by simp [trailing]) stepped (behind ?_)
      rw [(word_keeps stepped).1, trailing]
    · rcases step_cases before stepped with ⟨rfl, rfl⟩ | ⟨o, value, isOption, stepped⟩ |
        ⟨plain, stepped⟩
      · exact ⟨[], words, .dashes words, owes_of_dashes (behind rfl)⟩
      · cases value with
        | some value =>
          obtain ⟨same, free⟩ := attached_keeps stepped
          obtain ⟨options, others, hr, owes⟩ := reads (same.trans before) free
          exact ⟨_, _, .attached isOption hr, owes_of_attached stepped owes⟩
        | none =>
          obtain ⟨t, settled, stepped⟩ := bind_eq_ok_iff.1 stepped
          cases stepped
          obtain ⟨v, rest, options, others, rfl, plain, hr, owes⟩ :=
            awaits ((settle_keeps settled).1.trans before) o t rfl
          exact ⟨_, _, .detached isOption plain hr, owes_of_detached settled owes⟩
      · obtain ⟨same, free'⟩ := word_keeps stepped
        obtain ⟨options, others, hr, owes⟩ := reads (same.trans before) (free' free)
        exact ⟨_, _, .plain plain hr, owes_of_word (by simp [free]) stepped owes⟩
    · rintro before o t rfl
      -- Whatever needs the option to be read is an error.
      rcases step_cases before stepped with ⟨rfl, rfl⟩ | ⟨o, value, isOption, stepped⟩ |
        ⟨plain, stepped⟩
      · obtain ⟨_, settled, -⟩ := behind rfl
        cases settled
      · obtain ⟨_, settled, -⟩ := bind_eq_ok_iff.1 stepped
        cases settled
      · rw [word, if_pos ⟨rfl, by rw [before]; exact Bool.false_ne_true⟩] at stepped
        cases stepped
        obtain ⟨options, others, hr, owes⟩ := reads before rfl
        exact ⟨w, words, options, others, rfl, plain, hr, owes⟩

end Draft

/-! ### Accepted command lines -/

variable {a : Arguments} {words : List String}

/-- What arguments say, by the options and the other words: each macro, property and input is a pair
of its own, in order, and the script comes before the inputs. -/
structure Says (a : Arguments) (options : List (ValueOption × String)) (others : List String) :
    Prop where
  macros : List.Forall₂ (fun w p => IsPair w p.1 p.2) (textsOf .defineMacro options) a.macros
  properties : List.Forall₂ (fun w p => ∃ text, IsPair w p.1 text ∧ StandsFor text p.2)
    (textsOf .setProperty options) a.properties
  script : a.script ≠ "" ∧ ∃ inputs, others = a.script :: inputs ∧
    List.Forall₂ (fun w p => ∃ text, IsPair w p.1 text ∧ StandsFor text p.2) inputs a.inputs

/-- **What an accepted command line says.** -/
theorem reads_of_parse (h : parse words = .ok a) :
    ∃ options others, Reads words options others ∧ a.Says options others := by
  have sound : Draft.IsSound {} := fun _ => ⟨rfl, by simp⟩
  obtain ⟨-, reads, -⟩ := Draft.owes_of_foldlM sound h
  obtain ⟨options, others, hr, t, settled, ⟨ms, macros, eachMacro⟩, ⟨ps, properties, eachProperty⟩,
    inputs, is, all, eachInput, positional⟩ := reads rfl rfl
  cases settled
  rw [List.nil_append] at macros properties all
  subst macros properties all
  have positional : a.script ≠ "" ∧ others = a.script :: inputs := positional
  exact ⟨options, others, hr, eachMacro.imp fun _ _ => splitPair_eq_ok,
    eachProperty.imp fun _ _ => bindingPair_eq_ok, positional.1, inputs, positional.2,
    eachInput.imp fun _ _ => bindingPair_eq_ok⟩

theorem lookup_filter_ne {α : Type} {name other : String} (h : name ≠ other)
    (ps : List (String × α)) : (ps.filter fun q => q.1 ≠ other).lookup name = ps.lookup name := by
  induction ps with
  | nil => rfl
  | cons p ps ih =>
    by_cases same : p.1 = other
    · rw [List.filter_cons_of_neg (by simp [same]), ih, lookup_cons_eq_ite,
        if_neg fun e => h (e.trans same)]
    · rw [List.filter_cons_of_pos (by simp [same]), lookup_cons_eq_ite, lookup_cons_eq_ite, ih]

/-- **The last definition of a macro counts**, and the table has no other. -/
theorem lookup_macroTable (a : Arguments) (name : String) :
    a.macroTable.lookup name = a.macros.reverse.lookup name := by
  have each (table : List (String × String)) (p : String × String) (other : String) :
      List.lookup other (p :: table.filter fun q => q.1 ≠ p.1) =
        if other = p.1 then some p.2 else table.lookup other := by
    rw [lookup_cons_eq_ite]
    split
    · rfl
    · rename_i other_ne
      exact lookup_filter_ne other_ne table
  exact (lookup_foldl (fun name table => table.lookup name) each a.macros [] name).trans
    Option.or_none

end Arguments

end PanelScript
