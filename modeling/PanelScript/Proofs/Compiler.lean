import Mathlib.Data.Set.Card
import PanelScript.Compiler

/-!
# The units that a compiler makes

All widgets that name the same script file and declare the same inputs share one unit, whatever
happens to the files meanwhile and however the file is named.

* `CompileRequest` is what a compiler is asked, with the files as they are then;
  `CompileRequest.LeadsTo` and `CompileRequest.Fails` say what is to be found there;
* `Compiler.serve_cases`: a request that leads to a script file is supplied with a unit, and every
  other one fails and changes nothing;
* `CompilerHistory` is what was answered so far; `CompilerHistory.Sound` is kept by every action;
* `units_by_script`: over every history, two answers are the same unit exactly if they are for the
  same file and the same inputs.
-/

namespace PanelScript

/-- How a script file is named: by a path, or by a path that has macros and starts from a
directory. -/
inductive ScriptName where
  | path (source : String)
  | template (directory template : String) (definitions : Macro.Definitions)

/-- What a compiler is asked for: a script file, as the files are then, and its inputs. -/
structure CompileRequest where
  files : FileTree
  script : ScriptName
  inputs : List String

namespace CompileRequest

/-- The path of the script file, once its macros are expanded. -/
def path (q : CompileRequest) : Except PanelError String :=
  match q.script with
  | .path source => .ok source
  | .template directory template definitions =>
    (Macro.expand definitions template).map (joinPath directory)

/-- There is a script file where the request asks for one, and this is its canonical path. -/
def LeadsTo (q : CompileRequest) (canonical : String) : Prop :=
  ∃ source, q.path = .ok source ∧ q.files.isFile source = .ok true ∧
    q.files.canonical source = .ok canonical

/-- Why there is no script file where the request asks for one. -/
inductive Fails (q : CompileRequest) : CompileError → Prop
  | unresolved {cause : PanelError} (path : q.path = .error cause) : Fails q (.unresolved cause)
  | notFound {source : String} (path : q.path = .ok source)
      (file : q.files.isFile source = .error .notFound) : Fails q (.notFound source)
  | notAFile {source : String} (path : q.path = .ok source)
      (file : q.files.isFile source = .ok false) : Fails q (.notAFile source)
  | io {source : String} {cause : IoError} (path : q.path = .ok source)
      (file : q.files.isFile source = .error cause) (other : cause ≠ .notFound) :
      Fails q (.io cause)

/-- Two requests are for the same script file and the same inputs. -/
def Agrees (q q' : CompileRequest) : Prop :=
  (∃ canonical, q.LeadsTo canonical ∧ q'.LeadsTo canonical) ∧ q.inputs = q'.inputs

variable {q q' : CompileRequest}

theorem LeadsTo.unique {canonical canonical' : String} (h : q.LeadsTo canonical)
    (h' : q.LeadsTo canonical') : canonical = canonical' := by
  obtain ⟨source, path, -, found⟩ := h
  obtain ⟨source', path', -, found'⟩ := h'
  obtain rfl := Except.ok.inj (path.symm.trans path')
  exact Except.ok.inj (found.symm.trans found')

theorem Fails.not_leadsTo {e : CompileError} (h : q.Fails e) (canonical : String) :
    ¬ q.LeadsTo canonical := by
  rintro ⟨source, path, file, -⟩
  cases h with
  | unresolved path' => cases path.symm.trans path'
  | notFound path' file' | notAFile path' file' | io path' file' =>
    obtain rfl := Except.ok.inj (path.symm.trans path')
    cases file.symm.trans file'

/-- There is one reason only. -/
theorem Fails.unique {e e' : CompileError} (h : q.Fails e) (h' : q.Fails e') : e = e' := by
  cases h <;> cases h' <;> grind

theorem agrees_iff {canonical canonical' : String} (h : q.LeadsTo canonical)
    (h' : q'.LeadsTo canonical') :
    q.Agrees q' ↔ canonical = canonical' ∧ q.inputs = q'.inputs := by
  constructor
  · rintro ⟨⟨common, hq, hq'⟩, same⟩
    exact ⟨(h.unique hq).trans (hq'.unique h'), same⟩
  · rintro ⟨rfl, same⟩
    exact ⟨⟨canonical, h, h'⟩, same⟩

end CompileRequest

/-- A path that leads to a file has a canonical one. -/
theorem FileTree.exists_canonical {t : FileTree} {source : String} {b : Bool}
    (h : t.isFile source = .ok b) : ∃ canonical, t.canonical source = .ok canonical := by
  unfold isFile at h
  unfold canonical
  cases located : t.locate source with
  | error e => rw [located] at h; cases h
  | ok p => exact ⟨p.text, rfl⟩

namespace Compiler

/-- Serve a request. -/
def serve (c : Compiler) (q : CompileRequest) : Except CompileError ScriptUnit × Compiler :=
  match q.script with
  | .path source => c.compile q.files source q.inputs
  | .template directory template definitions =>
    c.compileTemplate q.files directory template definitions q.inputs

variable {c : Compiler} {q : CompileRequest}

theorem serve_of_path {source : String} (h : q.path = .ok source) :
    c.serve q = c.compile q.files source q.inputs := by
  unfold CompileRequest.path at h
  unfold serve
  split at h
  · obtain rfl := Except.ok.inj h
    rfl
  · rename_i directory template definitions _
    cases expanded : Macro.expand definitions template with
    | error e => rw [expanded] at h; cases h
    | ok path =>
      rw [expanded] at h
      obtain rfl := Except.ok.inj h
      simp [compileTemplate, expanded]

theorem serve_of_unresolved {cause : PanelError} (h : q.path = .error cause) :
    c.serve q = (.error (.unresolved cause), c) := by
  unfold CompileRequest.path at h
  unfold serve
  split at h
  · cases h
  · rename_i directory template definitions _
    cases expanded : Macro.expand definitions template with
    | error e =>
      rw [expanded] at h
      obtain rfl := Except.error.inj h
      simp [compileTemplate, expanded]
    | ok path => rw [expanded] at h; cases h

/-- A request that leads to a script file is supplied with a unit. Every other one fails, and
changes nothing. -/
theorem serve_cases (c : Compiler) (q : CompileRequest) :
    (∃ canonical, q.LeadsTo canonical ∧
      c.serve q = (.ok (c.supply canonical q.inputs).1, (c.supply canonical q.inputs).2)) ∨
    ∃ e, q.Fails e ∧ c.serve q = (.error e, c) := by
  cases path : q.path with
  | error cause => exact .inr ⟨_, .unresolved path, serve_of_unresolved path⟩
  | ok source =>
    rw [serve_of_path path]
    cases file : q.files.isFile source with
    | error cause =>
      have fails : scriptPath q.files source = .error (.ofIo source cause) := by
        simp [scriptPath, file]
      refine .inr ⟨_, ?_, compile_of_error fails⟩
      by_cases missing : cause = .notFound
      · subst missing
        exact .notFound path file
      · have other : CompileError.ofIo source cause = .io cause := by
          cases cause <;> first | rfl | exact absurd rfl missing
        exact other ▸ .io path file missing
    | ok isFile =>
      cases isFile with
      | false =>
        have fails : scriptPath q.files source = .error (.notAFile source) := by
          simp [scriptPath, file]
        exact .inr ⟨_, .notAFile path file, compile_of_error fails⟩
      | true =>
        obtain ⟨canonical, found⟩ := FileTree.exists_canonical file
        have leads : scriptPath q.files source = .ok canonical := by
          simp [scriptPath, file, found, Except.mapError]
        exact .inl ⟨canonical, ⟨source, path, file, found⟩, by simp [compile, leads]⟩

theorem serve_of_leadsTo {canonical : String} (h : q.LeadsTo canonical) :
    c.serve q = (.ok (c.supply canonical q.inputs).1, (c.supply canonical q.inputs).2) := by
  rcases c.serve_cases q with ⟨canonical', leads, served⟩ | ⟨e, fails, -⟩
  · rw [served, h.unique leads]
  · exact absurd h (fails.not_leadsTo canonical)

theorem serve_of_fails {e : CompileError} (h : q.Fails e) : c.serve q = (.error e, c) := by
  rcases c.serve_cases q with ⟨canonical, leads, -⟩ | ⟨e', fails, served⟩
  · exact absurd leads (h.not_leadsTo canonical)
  · rw [served, h.unique fails]

/-- A unit is supplied that was made before, or one is made now. -/
theorem supply_cases (c : Compiler) (path : String) (inputs : List String) :
    (∃ u ∈ c.units, u.source = path ∧ u.inputs = inputs ∧ c.supply path inputs = (u, c)) ∨
    ((∀ u ∈ c.units, ¬ (u.source = path ∧ u.inputs = inputs)) ∧
      c.supply path inputs = (.ofFile c.next path inputs,
        ⟨c.units ++ [.ofFile c.next path inputs], c.next + 1⟩)) := by
  unfold supply
  cases found : c.find? path inputs with
  | some u =>
    have same := List.find?_some found
    simp only [decide_eq_true_eq] at same
    exact .inl ⟨u, List.mem_of_find?_eq_some found, same.1, same.2, rfl⟩
  | none =>
    refine .inr ⟨fun u hu same => ?_, rfl⟩
    have := List.find?_eq_none.1 found u hu
    simp [same] at this

end Compiler

/-! ### Histories -/

/-- What happens to a compiler. -/
inductive CompilerAction where
  | request (q : CompileRequest)
  /-- Units are made elsewhere, and take numbers. -/
  | elsewhere (count : Nat)

/-- A compiler, with all requests so far and what they were answered. -/
structure CompilerHistory where
  compiler : Compiler
  answers : List (CompileRequest × Except CompileError ScriptUnit)

namespace CompilerHistory

/-- What an action does. -/
def step (h : CompilerHistory) : CompilerAction → CompilerHistory
  | .request q => ⟨(h.compiler.serve q).2, h.answers ++ [(q, (h.compiler.serve q).1)]⟩
  | .elsewhere count => { h with compiler := { h.compiler with next := h.compiler.next + count } }

/-- The history of a new compiler. -/
def of (next : UnitId) (actions : List CompilerAction) : CompilerHistory :=
  actions.foldl step ⟨.ofNext next, []⟩

/-- What a unit is shared by: its script file and its inputs. -/
def key (u : ScriptUnit) : String × List String := (u.source, u.inputs)

/-- The units of a compiler are those that it has answered, of which no two have the same number or
the same file and inputs. -/
structure Sound (h : CompilerHistory) : Prop where
  made : ∀ u ∈ h.compiler.units, u = .ofFile u.id u.source u.inputs ∧ u.id < h.compiler.next
  numbers : (h.compiler.units.map ScriptUnit.id).Nodup
  keys : (h.compiler.units.map key).Nodup
  answered : ∀ q u, (q, .ok u) ∈ h.answers →
    u ∈ h.compiler.units ∧ q.LeadsTo u.source ∧ u.inputs = q.inputs
  asked : ∀ u ∈ h.compiler.units, ∃ q, (q, .ok u) ∈ h.answers

variable {h : CompilerHistory}

theorem sound_of_nil (next : UnitId) : Sound ⟨.ofNext next, []⟩ := by
  refine ⟨?_, ?_, ?_, ?_, ?_⟩ <;> simp [Compiler.ofNext]

theorem mem_answers_concat {q q' : CompileRequest} {a a' : Except CompileError ScriptUnit} :
    (q', a') ∈ h.answers ++ [(q, a)] ↔ (q', a') ∈ h.answers ∨ q' = q ∧ a' = a := by
  simp

/-- A request fails. -/
theorem Sound.refuse (sound : h.Sound) (q : CompileRequest) (e : CompileError) :
    Sound ⟨h.compiler, h.answers ++ [(q, .error e)]⟩ := by
  refine ⟨sound.made, sound.numbers, sound.keys, fun q' u member => ?_, fun u hu => ?_⟩
  · rcases mem_answers_concat.1 member with old | ⟨-, new⟩
    · exact sound.answered q' u old
    · cases new
  · obtain ⟨q', old⟩ := sound.asked u hu
    exact ⟨q', mem_answers_concat.2 (.inl old)⟩

/-- A unit is supplied that was made before. -/
theorem Sound.recall (sound : h.Sound) {q : CompileRequest} {u : ScriptUnit}
    (hu : u ∈ h.compiler.units) (leads : q.LeadsTo u.source) (inputs : u.inputs = q.inputs) :
    Sound ⟨h.compiler, h.answers ++ [(q, .ok u)]⟩ := by
  refine ⟨sound.made, sound.numbers, sound.keys, fun q' u' member => ?_, fun u' hu' => ?_⟩
  · rcases mem_answers_concat.1 member with old | ⟨rfl, new⟩
    · exact sound.answered q' u' old
    · obtain rfl := Except.ok.inj new
      exact ⟨hu, leads, inputs⟩
  · obtain ⟨q', old⟩ := sound.asked u' hu'
    exact ⟨q', mem_answers_concat.2 (.inl old)⟩

/-- A unit is made. -/
theorem Sound.make (sound : h.Sound) {q : CompileRequest} {path : String} (leads : q.LeadsTo path)
    (new : ∀ u ∈ h.compiler.units, ¬ (u.source = path ∧ u.inputs = q.inputs)) {u : ScriptUnit}
    (made : u = .ofFile h.compiler.next path q.inputs) :
    Sound ⟨⟨h.compiler.units ++ [u], h.compiler.next + 1⟩, h.answers ++ [(q, .ok u)]⟩ := by
  have units {v : ScriptUnit} : v ∈ h.compiler.units ++ [u] ↔ v ∈ h.compiler.units ∨ v = u := by
    simp
  refine ⟨fun v hv => ?_, ?_, ?_, fun q' v member => ?_, fun v hv => ?_⟩
  · rcases units.1 hv with old | rfl
    · exact ⟨(sound.made v old).1, Nat.lt_succ_of_lt (sound.made v old).2⟩
    · subst made
      exact ⟨rfl, Nat.lt_succ_self _⟩
  · -- All numbers so far are smaller than the next one.
    rw [List.map_append, List.map_singleton, ← List.concat_eq_append]
    refine sound.numbers.concat fun member => ?_
    obtain ⟨v, hv, same⟩ := List.mem_map.1 member
    have lt := (sound.made v hv).2
    rw [same, made] at lt
    exact Nat.lt_irrefl _ lt
  · rw [List.map_append, List.map_singleton, ← List.concat_eq_append]
    refine sound.keys.concat fun member => ?_
    obtain ⟨v, hv, same⟩ := List.mem_map.1 member
    rw [made] at same
    exact new v hv (Prod.mk.inj same)
  · rcases mem_answers_concat.1 member with old | ⟨rfl, same⟩
    · obtain ⟨hv, rest⟩ := sound.answered q' v old
      exact ⟨units.2 (.inl hv), rest⟩
    · obtain rfl := Except.ok.inj same
      subst made
      exact ⟨units.2 (.inr rfl), leads, rfl⟩
  · rcases units.1 hv with old | rfl
    · obtain ⟨q', asked⟩ := sound.asked v old
      exact ⟨q', mem_answers_concat.2 (.inl asked)⟩
    · exact ⟨q, mem_answers_concat.2 (.inr ⟨rfl, rfl⟩)⟩

theorem Sound.step (sound : h.Sound) (a : CompilerAction) : (h.step a).Sound := by
  cases a with
  | request q =>
    rcases h.compiler.serve_cases q with ⟨path, leads, served⟩ | ⟨e, -, served⟩
    · rw [CompilerHistory.step, served]
      rcases h.compiler.supply_cases path q.inputs with
        ⟨u, hu, rfl, inputs, supplied⟩ | ⟨new, supplied⟩
      · rw [supplied]
        exact sound.recall hu leads inputs
      · rw [supplied]
        exact sound.make leads new rfl
    · rw [CompilerHistory.step, served]
      exact sound.refuse q e
  | elsewhere count =>
    exact ⟨fun u hu => ⟨(sound.made u hu).1, Nat.lt_add_right count (sound.made u hu).2⟩,
      sound.numbers, sound.keys, sound.answered, sound.asked⟩

theorem sound (next : UnitId) (actions : List CompilerAction) : (of next actions).Sound := by
  -- The induction is on the actions that are left, so it is for every history.
  suffices ∀ h : CompilerHistory, h.Sound → (actions.foldl CompilerHistory.step h).Sound from
    this _ (sound_of_nil next)
  induction actions with
  | nil => exact fun _ sound => sound
  | cons a actions ih => exact fun h sound => ih (h.step a) (sound.step a)

/-- Two units that were answered are one exactly if they have one number, and exactly if they are
for the same file and the same inputs. -/
theorem Sound.eq_iff (sound : h.Sound) {q q' : CompileRequest} {u u' : ScriptUnit}
    (hu : (q, .ok u) ∈ h.answers) (hu' : (q', .ok u') ∈ h.answers) :
    (u.id = u'.id ↔ u = u') ∧ (u = u' ↔ q.Agrees q') := by
  obtain ⟨member, leads, inputs⟩ := sound.answered q u hu
  obtain ⟨member', leads', inputs'⟩ := sound.answered q' u' hu'
  rw [CompileRequest.agrees_iff leads leads', ← inputs, ← inputs']
  refine ⟨⟨fun same => ?_, fun same => same ▸ rfl⟩, ?_, fun same => ?_⟩
  · exact List.inj_on_of_nodup_map sound.numbers member member' same
  · rintro rfl
    exact ⟨rfl, rfl⟩
  · exact List.inj_on_of_nodup_map sound.keys member member' (Prod.ext same.1 same.2)

/-- The files and inputs of the requests that were supplied with a unit. -/
def supplied (h : CompilerHistory) : Set (String × List String) :=
  {k | ∃ q u, (q, .ok u) ∈ h.answers ∧ q.LeadsTo k.1 ∧ q.inputs = k.2}

/-- There are as many units as files and inputs that were asked for. -/
theorem Sound.size_eq (sound : h.Sound) : (h.compiler.size : ℕ∞) = h.supplied.encard := by
  have same : h.supplied = ((h.compiler.units.map key).toFinset : Set (String × List String)) := by
    ext ⟨path, inputs⟩
    simp only [supplied, Set.mem_ofPred_eq, List.coe_toFinset, List.mem_map]
    constructor
    · rintro ⟨q, u, answered, leads, rfl⟩
      obtain ⟨hu, leads', same⟩ := sound.answered q u answered
      exact ⟨u, hu, Prod.ext (leads'.unique leads) same⟩
    · rintro ⟨u, hu, e⟩
      obtain ⟨rfl, rfl⟩ := Prod.mk.inj e
      obtain ⟨q, answered⟩ := sound.asked u hu
      obtain ⟨-, leads, same⟩ := sound.answered q u answered
      exact ⟨q, u, answered, leads, same.symm⟩
  rw [same, Set.encard_coe_eq_coe_finsetCard, List.toFinset_card_of_nodup sound.keys,
    List.length_map]
  rfl

/-- **One unit for each script file and its inputs.** Whatever a compiler was asked before, and
whatever became of the files meanwhile:

* two answers are one unit, with one number, exactly if the requests led to the same canonical path
  and were for the same inputs in the same order; otherwise their numbers differ;
* a unit is for the interpreter behind the gateway, has the canonical path, and the inputs that were
  asked for;
* there are as many units as canonical paths with inputs that were asked for with success;
* a request is answered with a unit exactly if it leads to a script file; otherwise it fails, for
  the reason that there is, and the compiler stays as it is. -/
theorem units_by_script (next : UnitId) (actions : List CompilerAction) :
    (∀ q u q' u', (q, .ok u) ∈ (of next actions).answers →
      (q', .ok u') ∈ (of next actions).answers →
      (q.Agrees q' → u = u') ∧ (¬ q.Agrees q' → u.id ≠ u'.id)) ∧
    (∀ q u, (q, .ok u) ∈ (of next actions).answers → u.backend = .gateway ∧
      u.inputs = q.inputs ∧ ∃ canonical, q.LeadsTo canonical ∧ u.payload = .file canonical) ∧
    ((of next actions).compiler.size : ℕ∞) = (of next actions).supplied.encard ∧
    ∀ q, (∃ canonical u c, q.LeadsTo canonical ∧
        (of next actions).compiler.serve q = (.ok u, c)) ∨
      ∃ e, q.Fails e ∧ (∀ canonical, ¬ q.LeadsTo canonical) ∧
        (of next actions).compiler.serve q = (.error e, (of next actions).compiler) := by
  have sound := sound next actions
  refine ⟨fun q u q' u' hu hu' => ?_, fun q u hu => ?_, sound.size_eq, fun q => ?_⟩
  · obtain ⟨numbers, agrees⟩ := sound.eq_iff hu hu'
    exact ⟨agrees.2, fun other same => other (agrees.1 (numbers.1 same))⟩
  · obtain ⟨member, leads, inputs⟩ := sound.answered q u hu
    have made := (sound.made u member).1
    exact ⟨by rw [made]; rfl, inputs, u.source, leads, by rw [made]; rfl⟩
  · rcases (of next actions).compiler.serve_cases q with ⟨path, leads, served⟩ | ⟨e, fails, served⟩
    · exact .inl ⟨path, _, _, leads, served⟩
    · exact .inr ⟨e, fails, fails.not_leadsTo, served⟩

/-! ### A file that comes back -/

/-- A path of the file `a` in the directory at the root. -/
structure IsSamplePath (source : String) : Prop where
  names : pathNames source = ["a"]
  zero : source.contains '\x00' = false
  empty : source ≠ ""
  short : source.utf8ByteSize ≤ FileTree.maxPath

theorem isSamplePath_relative : IsSamplePath "a" := by
  have parts : "a".splitOn "/" = ["a"] := by
    rw [String.splitOn, if_neg (by decide)]
    repeat (rw [String.splitOnAux]; simp +decide)
  have last : "a".endsWith "/" = false := by decide +kernel
  have zero : "a".contains '\x00' = false := by
    rw [String.contains_char_eq]
    decide
  exact ⟨by simp [pathNames, parts, last], zero, by decide, by decide⟩

theorem isSamplePath_absolute : IsSamplePath "/a" := by
  have parts : "/a".splitOn "/" = ["", "a"] := by
    rw [String.splitOn, if_neg (by decide)]
    repeat (rw [String.splitOnAux]; simp +decide)
  have last : "/a".endsWith "/" = false := by decide +kernel
  have zero : "/a".contains '\x00' = false := by
    rw [String.contains_char_eq]
    decide
  exact ⟨by simp [pathNames, parts, last], zero, by decide, by decide⟩

/-- The file with some content, or no file. -/
def sampleFiles (content : Option String) : FileTree :=
  ⟨(content.map fun c => (["a"], FileNode.file c)).toList, []⟩

theorem IsSamplePath.locate {source : String} (h : IsSamplePath source) (content : Option String) :
    (sampleFiles content).locate source =
      if content.isSome then .ok ["a"] else .error .notFound := by
  have name : ¬ FileTree.maxName < "a".utf8ByteSize := by decide
  cases content <;>
    simp [FileTree.locate, FileTree.follow, h.names, h.zero, h.empty, not_lt.2 h.short,
      FileTree.walk, FileTree.origin, sampleFiles, FileTree.node?, name]

theorem IsSamplePath.leadsTo {q : CompileRequest} {source content : String}
    (h : IsSamplePath source) (path : q.path = .ok source)
    (files : q.files = sampleFiles (some content)) : q.LeadsTo "/a" := by
  have located := h.locate (some content)
  refine ⟨source, path, ?_, ?_⟩
  · rw [files, FileTree.isFile, located]
    rfl
  · rw [files, FileTree.canonical, located]
    rfl

theorem IsSamplePath.fails {q : CompileRequest} {source : String} (h : IsSamplePath source)
    (path : q.path = .ok source) (files : q.files = sampleFiles none) :
    q.Fails (.notFound source) := by
  refine .notFound path ?_
  rw [files, FileTree.isFile, h.locate none]
  rfl

/-- The file is asked for. -/
def sampleFirst : CompileRequest := ⟨sampleFiles (some ""), .path "a", ["x"]⟩

/-- It is asked for again when it was removed. -/
def sampleMissing : CompileRequest := ⟨sampleFiles none, .path "a", ["x"]⟩

/-- It is asked for by a template when there is a new file in its place. -/
def sampleAgain : CompileRequest :=
  ⟨sampleFiles (some "new"), .template "/" "$(F)" fun name => [("F", "a")].lookup name, ["x"]⟩

/-- It is asked for with other inputs. -/
def sampleOther : CompileRequest := ⟨sampleFiles (some "new"), .path "/a", []⟩

theorem leadsTo_sampleAgain : sampleAgain.LeadsTo "/a" := by
  have expanded : Macro.expand (fun name => [("F", "a")].lookup name) "$(F)" = .ok "a" := by decide
  have joined : joinPath "/" "a" = "/a" := by decide +kernel
  refine isSamplePath_absolute.leadsTo ?_ rfl
  rw [CompileRequest.path, sampleAgain]
  simp only [expanded, Except.map, joined]

/-- The requests, with units made elsewhere between them. -/
def sampleActions : List CompilerAction :=
  [.request sampleFirst, .request sampleMissing, .elsewhere 3, .request sampleAgain,
    .request sampleOther]

theorem units_by_script_sample :
    ∃ u v, (sampleFirst, .ok u) ∈ (of 1 sampleActions).answers ∧
      (sampleAgain, .ok u) ∈ (of 1 sampleActions).answers ∧
      (sampleOther, .ok v) ∈ (of 1 sampleActions).answers ∧ u.id ≠ v.id ∧
      u.payload = .file "/a" ∧ (of 1 sampleActions).supplied.encard = 2 ∧
      (of 1 sampleActions).compiler.serve sampleMissing =
        (.error (.notFound "a"), (of 1 sampleActions).compiler) := by
  have first : sampleFirst.LeadsTo "/a" := isSamplePath_relative.leadsTo rfl rfl
  have other : sampleOther.LeadsTo "/a" := isSamplePath_absolute.leadsTo rfl rfl
  have missing : sampleMissing.Fails (.notFound "a") := isSamplePath_relative.fails rfl rfl
  have history : of 1 sampleActions =
      ⟨⟨[.ofFile 1 "/a" ["x"], .ofFile 5 "/a" []], 6⟩,
        [(sampleFirst, .ok (.ofFile 1 "/a" ["x"])), (sampleMissing, .error (.notFound "a")),
          (sampleAgain, .ok (.ofFile 1 "/a" ["x"])), (sampleOther, .ok (.ofFile 5 "/a" []))]⟩ := by
    simp only [of, sampleActions, List.foldl_cons, List.foldl_nil, step,
      Compiler.serve_of_leadsTo first, Compiler.serve_of_fails missing,
      Compiler.serve_of_leadsTo leadsTo_sampleAgain, Compiler.serve_of_leadsTo other]
    rfl
  obtain ⟨same, made, size, served⟩ := units_by_script 1 sampleActions
  have hu : (sampleFirst, .ok (.ofFile 1 "/a" ["x"])) ∈ (of 1 sampleActions).answers := by
    simp [history]
  have hu' : (sampleAgain, .ok (.ofFile 1 "/a" ["x"])) ∈ (of 1 sampleActions).answers := by
    simp [history]
  have hv : (sampleOther, .ok (.ofFile 5 "/a" [])) ∈ (of 1 sampleActions).answers := by
    simp [history]
  refine ⟨_, _, hu, hu', hv, (same _ _ _ _ hu hv).2 ?_, ?_, ?_, ?_⟩
  · rw [CompileRequest.agrees_iff first other]
    rintro ⟨-, inputs⟩
    cases inputs
  · obtain ⟨-, -, canonical, leads, payload⟩ := made _ _ hu
    rwa [leads.unique first] at payload
  · rw [← size, history]
    rfl
  · rcases served sampleMissing with ⟨canonical, _, _, leads, -⟩ | ⟨e, fails, -, served⟩
    · exact absurd leads (missing.not_leadsTo canonical)
    · rwa [fails.unique missing] at served

end CompilerHistory

end PanelScript
