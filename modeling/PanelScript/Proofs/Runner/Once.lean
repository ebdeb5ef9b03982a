import PanelScript.Proofs.Compiler
import PanelScript.Proofs.Json.Canonical
import PanelScript.Proofs.Runner.CommandLine
import PanelScript.Proofs.Session.Rest
import PanelScript.Runner.Run

/-!
# One run of a script

The command gives a watcher the values of the command line, which set nothing off, and then asks it
for one run. The request that goes to the gateway has the pairs of the command line, and what is
printed has its properties.

* `Runner.lookup_propertiesOf`: which value is shown of a property;
* `Session.foldl_change`: the values of the command line only fill the watcher;
* `Runner.CallsOnce` is a session with one submission and one call, with the inputs of the command
  line; `Runner.Shows` says what a report shows;
* `Runner.runWith_calls_once`: what a run of the command comes to;
* `Runner.isSome_runWith`: it always comes to something.
-/

namespace PanelScript

/-- What a verdict writes to the widget: what the accepted response says, if there is one. -/
def Verdict.writes : Verdict → List (String × Json)
  | .ok response => response.writes
  | .error _ => []

theorem Verdict.answer_snd (v : Verdict) : (Verdict.answer v).2 = v.writes := by
  cases v <;> rfl

/-! ### Values by name -/

theorem Json.lookup_insertMember (members : List (String × Json)) (p : String × Json)
    (name : String) : (insertMember p.1 p.2 members).lookup name =
      if name = p.1 then some p.2 else members.lookup name := by
  induction members with
  | nil => exact lookup_cons_eq_ite p [] name
  | cons q members ih =>
    rw [insertMember]
    by_cases before : p.1 < q.1
    · rw [if_pos before]
      exact lookup_cons_eq_ite p (q :: members) name
    rw [if_neg before, lookup_cons_eq_ite q]
    by_cases same : p.1 = q.1
    · rw [if_pos same, lookup_cons_eq_ite, ← same]
      split <;> rfl
    · rw [if_neg same, lookup_cons_eq_ite, ih]
      split_ifs with e e'
      · exact absurd (e'.symm.trans e) same
      all_goals rfl

theorem Json.lookup_sortMembers (members : List (String × Json)) (name : String) :
    (sortMembers members).lookup name = members.reverse.lookup name :=
  (lookup_foldl (fun name sorted => List.lookup name sorted)
    (fun sorted p => lookup_insertMember sorted p) members [] name).trans Option.or_none

theorem Json.nodup_sortMembers (members : List (String × Json)) :
    ((sortMembers members).map Prod.fst).Nodup :=
  List.pairwise_map.2 ((ascending_sortMembers members).imp fun h => String.ne_of_lt h)

theorem Widget.property?_ofProperties (name type : String) (ps : List (String × Json))
    (property : String) :
    (ofProperties name type ps).property? property = ps.reverse.lookup property :=
  (lookup_foldl (fun name (kept : Properties) => kept.lookup name)
    (fun kept p other => Properties.lookup_put kept p.1 other p.2) ps [] property).trans
    Option.or_none

/-- Of the values that are written to one property the last stays. -/
theorem foldl_written (updates : List (String × Json)) (name : String) (old : Json) :
    updates.foldl (fun value u => if u.1 = name then u.2 else value) old =
      (updates.reverse.lookup name).getD old := by
  induction updates generalizing old with
  | nil => rfl
  | cons u updates ih =>
    rw [List.foldl_cons, ih, List.reverse_cons, List.lookup_append, lookup_cons_eq_ite]
    cases updates.reverse.lookup name with
    | some value => rfl
    | none =>
      by_cases same : name = u.1
      · rw [if_pos same, if_pos same.symm]
        rfl
      · rw [if_neg same, if_neg (Ne.symm same)]
        rfl

/-! ### What the watcher is given -/

namespace Session

variable {o : Outside} {settings : SupportSettings} {gateway : GatewaySettings} {w : Widget}
  {x : Watcher} {u : ScriptUnit} {now : Timestamp}

/-- A value of an input that runs nothing is only kept. -/
theorem submitTaken_change (passive : ∀ i ∈ x.inputs, i.triggers = false) (index : Nat)
    (value : LiveValue) :
    (fresh settings gateway w [x]).submitTaken o (.change 0 index value now) =
      (none, fresh settings gateway w [x.record index value]) := by
  have nothing : (x.record index value).context? index now = none := by
    unfold Watcher.context?
    split
    · rfl
    · rename_i input found
      rw [passive input (List.mem_of_getElem? found)]
      rfl
  have stepped : Session.step o (.change 0 index value now) (fresh settings gateway w [x]) =
      some (fresh settings gateway w [x.record index value]) := by
    have first : (fresh settings gateway w [x]).watchers[0]? = some x := rfl
    simp only [Session.step, watch, first, Watcher.change, nothing, Option.bind_eq_bind,
      Option.bind_some]
    rfl
  rw [submitTaken, stepped]
  rfl

/-- What the watcher is asked for is submitted. -/
theorem submitTaken_request :
    (fresh settings gateway w [x]).submitTaken o (.request 0 now) =
      ((settle o (submitted settings gateway w [x] x.unit (x.request now))).submitAnswer? 0,
        settle o (submitted settings gateway w [x] x.unit (x.request now))) := by
  rfl

/-- Values of inputs are kept in the order of the inputs. -/
theorem foldl_change (h : WidgetHandle) (inputs : List WatchedInput)
    (passive : ∀ i ∈ inputs, i.triggers = false) (checks : Bool) (kept : List (Option LiveValue))
    (ps : List (String × Json)) :
    (ps.zipIdx kept.length).foldl (fun s ((name, value), index) =>
        (s.submitTaken o (.change 0 index (.ofValue name value now) now)).2)
        (fresh settings gateway w
          [⟨u, h, inputs, checks, kept ++ List.replicate ps.length none⟩]) =
      fresh settings gateway w
        [⟨u, h, inputs, checks, kept ++ ps.map fun p => some (.ofValue p.1 p.2 now)⟩] := by
  induction ps generalizing kept with
  | nil => rfl
  | cons p ps ih =>
    let v : Option LiveValue := some (.ofValue p.1 p.2 now)
    have filled : (kept ++ List.replicate (ps.length + 1) none).set kept.length v =
        kept ++ [v] ++ List.replicate ps.length none := by
      rw [List.set_append_right _ _ (Nat.le_refl _), Nat.sub_self, List.replicate_succ,
        List.set_cons_zero, List.append_assoc, List.singleton_append]
    have first : ((fresh settings gateway w
          [⟨u, h, inputs, checks, kept ++ List.replicate (ps.length + 1) none⟩]).submitTaken o
          (.change 0 kept.length (.ofValue p.1 p.2 now) now)).2 =
        fresh settings gateway w
          [⟨u, h, inputs, checks, kept ++ [v] ++ List.replicate ps.length none⟩] := by
      rw [submitTaken_change passive, ← filled]
      rfl
    have next := ih (kept ++ [v])
    rw [← first, List.length_append, List.append_assoc] at next
    rw [List.zipIdx_cons, List.foldl_cons]
    exact next

end Session

namespace Runner

open Json (bind_eq_ok_iff map_eq_ok_iff)
open Session (fresh submitted firstRequest)

variable {p : Site} {words : List String} {r : Preparation} {a : Arguments} {u : ScriptUnit}
  {s : Session}

/-! ### What goes before a run -/

theorem ok_of_mapError {ε ε' α : Type} {f : ε → ε'} {x : Except ε α} {v : α}
    (h : x.mapError f = .ok v) : x = .ok v := by
  cases x with
  | error e => cases h
  | ok v' => exact congrArg Except.ok (Except.ok.inj h)

/-- A script file becomes a unit for the gateway, with the names of the command line. -/
theorem unit_of_compile (h : compile p a = .ok u) :
    ∃ path, u.payload = .file path ∧ u.inputs = a.inputs.map Prod.fst := by
  have h := ok_of_mapError h
  unfold Compiler.compileTemplate at h
  split at h
  · cases h
  · unfold Compiler.compile at h
    split at h
    · cases h
    · rename_i path _
      obtain rfl := Except.ok.inj h
      exact ⟨path, rfl, rfl⟩

theorem parse_of_prepare (h : prepare p words = .ok r) :
    Arguments.parse words = .ok r.arguments ∧ 0 < r.support.poolSize := by
  unfold prepare at h
  simp only [bind_eq_ok_iff] at h
  obtain ⟨env, -, arguments, parsed, gateway, -, -, -, support, supplied, -, -, h⟩ := h
  obtain rfl := Except.ok.inj h
  refine ⟨ok_of_mapError parsed, ?_⟩
  have supplied := ok_of_mapError supplied
  unfold SupportSettings.ofEnvironment at supplied
  simp only [bind_eq_ok_iff] at supplied
  obtain ⟨size, -, timeout, -, supplied⟩ := supplied
  obtain rfl := Except.ok.inj supplied
  exact Nat.lt_of_lt_of_le Nat.one_pos (Nat.le_max_right size 1)

/-- What the run is given. -/
def contextOf (a : Arguments) (now : Timestamp) : Context :=
  ⟨⟨0, "runner", "label"⟩, a.inputs.map fun p => .ofValue p.1 p.2 now, .explicit⟩

/-- The watcher once it has the values of the command line. -/
def filled (a : Arguments) (u : ScriptUnit) (now : Timestamp) : Watcher :=
  ⟨u, ⟨0, "runner", "label"⟩, inputsOf a, false,
    a.inputs.map fun p => some (.ofValue p.1 p.2 now)⟩

theorem request_filled (a : Arguments) (u : ScriptUnit) (now : Timestamp) :
    (filled a u now).request now = contextOf a now := by
  simp [Watcher.request, Watcher.context, Watcher.values, filled, contextOf, inputsOf]

/-- The report of a run by the answer to its submission. -/
def reportOf (p : Site) (a : Arguments) : Option SubmitAnswer × Session →
    Option (RunReport × Session)
  | (some (.scheduled job), s) =>
    match (s.await p.outside job).awaitResult job with
    | (.result result, s) => some (.ofResult result (propertiesOf a s), s)
    | (_, _) => none
  | (some (.refused e), s) => some (.ofError (.support e), s)
  | (_, s) => some (.ofError .notScheduled, s)

/-- The run of a unit comes to a submission in a session where nothing has happened. -/
theorem runUnit_eq (inputs : u.inputs = a.inputs.map Prod.fst) (r : Preparation)
    (mine : r.arguments = a) :
    runUnit p a u (sessionOf r) =
      let s := Session.settle p.outside
        (submitted r.support r.gateway (widgetOf a) [filled a u p.now] u (contextOf a p.now))
      reportOf p a (s.submitAnswer? 0, s) := by
  subst mine
  have watched : Watcher.ofUnit u ((sessionOf r).handleOf 0) (inputsOf r.arguments) false =
      .ok ⟨u, ⟨0, "runner", "label"⟩, inputsOf r.arguments, false,
        List.replicate r.arguments.inputs.length none⟩ := by
    have length : (inputsOf r.arguments).length = r.arguments.inputs.length := List.length_map _
    rw [Watcher.ofUnit, if_neg (by rw [length, inputs, List.length_map]; exact not_not.2 rfl),
      length]
    rfl
  have passive : ∀ i ∈ inputsOf r.arguments, i.triggers = false := by
    intro i hi
    obtain ⟨_, -, rfl⟩ := List.mem_map.1 hi
    rfl
  have given : giveValues p r.arguments ((sessionOf r).addWatcher
      ⟨u, ⟨0, "runner", "label"⟩, inputsOf r.arguments, false,
        List.replicate r.arguments.inputs.length none⟩) =
      fresh r.support r.gateway (widgetOf r.arguments) [filled r.arguments u p.now] :=
    Session.foldl_change ⟨0, "runner", "label"⟩ (inputsOf r.arguments) passive false [] _
  have asked : (fresh r.support r.gateway (widgetOf r.arguments)
      [filled r.arguments u p.now]).submitTaken p.outside (.request 0 p.now) =
      let s := Session.settle p.outside (submitted r.support r.gateway (widgetOf r.arguments)
        [filled r.arguments u p.now] u (contextOf r.arguments p.now))
      (s.submitAnswer? 0, s) := by
    rw [Session.submitTaken_request, request_filled]
    rfl
  dsimp only at asked ⊢
  -- The session at the end is not to be looked into.
  generalize Session.settle p.outside _ = s at asked ⊢
  simp only [runUnit, watched, given, asked]
  rfl

/-! ### What is asked for -/

/-- One submission was made and one call, and its request has just the inputs of the command line,
in order, each a good value of its own name. -/
structure CallsOnce (a : Arguments) (u : ScriptUnit) (s : Session) (call : LinkCall) : Prop where
  submission : s.support.submissions.map Submission.unit = [u]
  calls : s.link.calls = [call]
  bindings : (call.request.bindings.map fun b => (b.name, b.value)) = a.inputs
  plain : ∀ b ∈ call.request.bindings, b.pv = b.name ∧ b.quality = .good
  trigger : call.request.trigger = none

theorem bindings_firstRequest (inputs : u.inputs = a.inputs.map Prod.fst) (path : String)
    (now : Timestamp) : (firstRequest path u (contextOf a now)).bindings =
      a.inputs.map fun p => ⟨p.1, p.1, p.2, now, .good⟩ := by
  simp only [firstRequest, InvokeRequest.ofBindings, Bindings.bind, contextOf, inputs,
    List.zip_map', List.map_map]
  rfl

theorem exists_callsOnce {path : String} {now : Timestamp} {w : Widget}
    (inputs : u.inputs = a.inputs.map Prod.fst)
    (single : s.Single u (contextOf a now) (firstRequest path u (contextOf a now)) w) :
    ∃ call, CallsOnce a u s call := by
  obtain ⟨call, calls, request⟩ := single.call
  refine ⟨call, by rw [single.support.submissions]; rfl, calls, ?_, ?_, by rw [request]; rfl⟩
  · rw [request, bindings_firstRequest inputs, List.map_map]
    exact List.map_id _
  · intro b hb
    rw [request, bindings_firstRequest inputs] at hb
    obtain ⟨_, -, rfl⟩ := List.mem_map.1 hb
    exact ⟨rfl, rfl⟩

/-! ### What is shown -/

/-- A report shows the result of a run and the properties of the command line, each once: with the
last value that the verdict of the call wrote to it, else with its last value on the command
line. -/
def Shows (a : Arguments) (u : ScriptUnit) (v : Verdict) (report : RunReport) : Prop :=
  ∃ (elapsed : Nat) (members : List (String × Json)),
    report.output = (Json.obj [("result",
        (ScriptResult.ofOutcome u.id u.source elapsed (Verdict.answer v).1).toJson),
      ("widget", .obj members)]).pretty ++ "\n" ∧
    (members.map Prod.fst).Nodup ∧
    ∀ name, members.lookup name = (a.properties.reverse.lookup name).map fun value =>
      (v.writes.reverse.lookup name).getD value

theorem lookup_map_fst (f : String → Json) (ps : List (String × Json)) (name : String) :
    (ps.map fun p => (p.1, f p.1)).lookup name = (ps.lookup name).map fun _ => f name := by
  induction ps with
  | nil => rfl
  | cons p ps ih =>
    rw [List.map_cons, lookup_cons_eq_ite, lookup_cons_eq_ite, ih]
    split_ifs with same
    · subst same
      rfl
    · rfl

/-- Of each property of the command line the value is shown that the widget has. -/
theorem lookup_propertiesOf (a : Arguments) (s : Session) (name : String) :
    (Json.sortMembers (propertiesOf a s)).lookup name = (a.properties.reverse.lookup name).map
      fun _ => ((s.widget (s.handleOf 0)).property? name).getD .null := by
  rw [Json.lookup_sortMembers, propertiesOf, ← List.map_reverse]
  exact lookup_map_fst (fun name => ((s.widget (s.handleOf 0)).property? name).getD .null) _ name

theorem shows_ofResult (v : Verdict) (elapsed : Nat)
    (widgets : s.support.widgets = [(widgetOf a).applyUpdates (Verdict.answer v).2]) :
    Shows a u v (.ofResult (.ofOutcome u.id u.source elapsed (Verdict.answer v).1)
      (propertiesOf a s)) := by
  have widget : s.widget (s.handleOf 0) = (widgetOf a).applyUpdates v.writes := by
    simp only [Session.widget, Session.handleOf, widgets, List.getElem?_cons_zero, v.answer_snd]
    rfl
  refine ⟨elapsed, Json.sortMembers (propertiesOf a s), ?_, Json.nodup_sortMembers _, fun name => ?_⟩
  · have sorted (x y : Json) :
        Json.sortMembers [("result", x), ("widget", y)] = [("result", x), ("widget", y)] :=
      Json.sortMembers_of_ascending (List.pairwise_pair.2 (show "result" < "widget" by decide))
    show (Json.obj (Json.sortMembers [_, _])).pretty ++ _ = _
    rw [sorted]
    rfl
  · rw [lookup_propertiesOf, widget, Widget.property?_applyUpdates, widgetOf,
      Widget.property?_ofProperties]
    cases a.properties.reverse.lookup name with
    | none => rfl
    | some value => exact congrArg some (foldl_written v.writes name value)

/-! ### The whole run -/

/-- The result of a compiled script comes. -/
theorem exists_runUnit (prepared : prepare p words = .ok r)
    (compiled : compile p r.arguments = .ok u) :
    ∃ report s path v, runUnit p r.arguments u (sessionOf r) = some (report, s) ∧
      s.Single u (contextOf r.arguments p.now) (firstRequest path u (contextOf r.arguments p.now))
        (widgetOf r.arguments) ∧
      s.link.verdict? 0 = some v ∧ Shows r.arguments u v report := by
  obtain ⟨-, place⟩ := parse_of_prepare prepared
  obtain ⟨path, file, inputs⟩ := unit_of_compile compiled
  have behind : u.backend = .gateway := by rw [ScriptUnit.backend, file]; rfl
  have fits : (contextOf r.arguments p.now).values.length = u.inputs.length := by
    rw [inputs, contextOf, List.length_map, List.length_map]
  have attended := Session.attended_settle p.outside place r.gateway (widgetOf r.arguments)
    [filled r.arguments u p.now] file fits
  have run := runUnit_eq (p := p) inputs r rfl
  generalize Session.settle p.outside _ = s at attended run
  have scheduled : s.submitAnswer? 0 = some (.scheduled 0) := by
    simp only [Session.submitAnswer?, attended.single.support.submissions,
      List.getElem?_cons_zero]
  simp only [scheduled, reportOf] at run
  have ready := attended.isReady_await behind p.outside
  have attended := attended.exhaust _ (Session.mem_of_awaiting p.outside 0)
  change (s.await p.outside 0).Attended _ _ _ _ at attended
  generalize s.await p.outside 0 = t at attended run ready
  have single : (t.awaitResult 0).2.Single u _ _ _ := attended.single.use 0 .await
  have link : (t.awaitResult 0).2.link = t.link := t.link_use 0 .await
  have support : (t.awaitResult 0).2.support = t.support := t.support_use 0 .await
  have there := attended.awaitResult_of_isReady ready
  obtain waiting | ⟨v, elapsed, verdict, result, widgets⟩ :=
    attended.calm.awaitResult attended.single behind rfl
  · exact absurd waiting there
  generalize t.awaitResult 0 = reading at *
  obtain ⟨reading, t'⟩ := reading
  obtain rfl : reading = _ := result
  refine ⟨_, _, path, v, run, single, by rw [link]; exact verdict, ?_⟩
  exact shows_ofResult v elapsed (by rw [support]; exact widgets)

/-- **A run of the command makes one submission and one call**, with the inputs of the command line
as they are written there, and shows its properties, whatever the gateway does or leaves undone. -/
theorem runWith_calls_once (prepared : prepare p words = .ok r)
    (compiled : compile p r.arguments = .ok u) :
    ∃ options others report s call v,
      Arguments.Reads words options others ∧ r.arguments.Says options others ∧
      (∀ name, r.arguments.macroTable.lookup name = r.arguments.macros.reverse.lookup name) ∧
      runWith p words = some (report, some s) ∧ CallsOnce r.arguments u s call ∧
      s.link.verdict? 0 = some v ∧ Shows r.arguments u v report := by
  obtain ⟨options, others, reads, meaning⟩ :=
    Arguments.reads_of_parse (parse_of_prepare prepared).1
  obtain ⟨-, -, inputs⟩ := unit_of_compile compiled
  obtain ⟨report, s, path, v, came, single, verdict, shows⟩ := exists_runUnit prepared compiled
  obtain ⟨last, rests⟩ := single.shutDown (o := p.outside) .drain
  obtain ⟨call, calls⟩ := exists_callsOnce inputs last
  refine ⟨options, others, report, (s.shutDown p.outside .drain).2, call, v, reads, meaning,
    r.arguments.lookup_macroTable, ?_, calls, rests.verdict 0 v verdict, shows⟩
  simp only [runWith, prepared, runOnce, compiled, came, Option.map_some]

/-- The command always comes to a report. -/
theorem isSome_runWith (p : Site) (words : List String) : (runWith p words).isSome := by
  cases prepared : prepare p words with
  | error e => simp [runWith, prepared]
  | ok r =>
    cases compiled : compile p r.arguments with
    | error e => simp [runWith, prepared, runOnce, compiled]
    | ok u =>
      obtain ⟨_, _, _, _, came, -⟩ := exists_runUnit prepared compiled
      simp [runWith, prepared, runOnce, compiled, came]

/-! ### A run -/

/-- The gateway answers every request at once. -/
def sampleReply (request : InvokeRequest) : InvokeResponse where
  version := protocolVersion
  callId := request.callId
  status := .ok
  value := none
  error := none
  updates := [⟨"text", .str "on"⟩]

/-- A file in the directory at the root, and nothing in the environment. -/
def sampleSite : Site where
  files := CompilerHistory.sampleFiles (some "")
  outside :=
    { start := fun _ _ _ => .error "not installed"
      connect := fun _ _ _ => .ok ()
      send := fun _ _ => .ok ()
      reply := fun _ request => ⟨none, [.text (WireMessage.result (sampleReply request)).text]⟩ }
  environment := ⟨[]⟩
  processors := 1
  now := ⟨0, 0⟩

/-- A macro, a property and an input that stand twice; one value has another `=`. -/
def sampleWords : List String :=
  ["-m", "F=b", "-mF=a", "-p", "text=1", "--property=text=2", "$(F)", "x=1", "x=2=3"]

def sampleArguments : Arguments where
  macros := [("F", "b"), ("F", "a")]
  properties := [("text", .num (.int 1)), ("text", .num (.int 2))]
  script := "$(F)"
  inputs := [("x", .num (.int 1)), ("x", .str "2=3")]

def samplePreparation : Preparation := ⟨sampleArguments, {}, { poolSize := 1 }⟩

theorem isFile_sampleSite : sampleSite.files.isFile "/.env" = .error .notFound := by
  have parts : "/.env".splitOn "/" = ["", ".env"] := by
    rw [String.splitOn, if_neg (by decide)]
    repeat (rw [String.splitOnAux]; simp +decide)
  have last : "/.env".endsWith "/" = false := by decide +kernel
  have names : pathNames "/.env" = [".env"] := by simp [pathNames, parts, last]
  have zero : "/.env".contains '\x00' = false := by
    rw [String.contains_char_eq]
    decide
  have name : ¬ FileTree.maxName < ".env".utf8ByteSize := by decide
  have short : ¬ FileTree.maxPath < "/.env".utf8ByteSize := by decide
  simp [FileTree.isFile, FileTree.locate, FileTree.follow, names, zero, short, FileTree.walk,
    FileTree.origin, sampleSite, CompilerHistory.sampleFiles, FileTree.node?, name]
  rfl

theorem prepare_sample : prepare sampleSite sampleWords = .ok samplePreparation := by
  have path : EnvironmentFile.candidates sampleSite.files.workingDirectory = ["/.env"] := by
    decide +kernel
  have loaded : EnvironmentFile.load sampleSite.files sampleSite.environment = .ok ⟨[]⟩ := by
    simp only [EnvironmentFile.load, EnvironmentFile.path?, path, List.find?_cons,
      isFile_sampleSite]
    rfl
  have parsed : Arguments.parse sampleWords = .ok sampleArguments := by decide +kernel
  simp only [prepare, loaded, parsed]
  decide +kernel

def sampleUnit : ScriptUnit := .ofFile 1 "/a" ["x", "x"]

theorem compile_sample : compile sampleSite sampleArguments = .ok sampleUnit := by
  have located : sampleSite.files.locate "/a" = .ok ["a"] :=
    CompilerHistory.isSamplePath_absolute.locate (some "")
  have found : Compiler.scriptPath sampleSite.files "/a" = .ok "/a" := by
    have isFile : sampleSite.files.isFile "/a" = .ok true := by
      rw [FileTree.isFile, located]
      rfl
    simp only [Compiler.scriptPath, isFile, FileTree.canonical, located]
    decide +kernel
  have expanded : Macro.expand (fun name => sampleArguments.macroTable.lookup name)
      sampleArguments.script = .ok "a" := by decide +kernel
  have joined : joinPath sampleSite.files.workingDirectory.text "a" = "/a" := by decide +kernel
  simp only [compile, Compiler.compileTemplate, expanded, joined, Compiler.compile, found]
  decide +kernel

/-- The property that the gateway wrote is shown. -/
theorem runWith_calls_once_sample :
    prepare sampleSite sampleWords = .ok samplePreparation ∧
      compile sampleSite samplePreparation.arguments = .ok sampleUnit ∧
      ∃ report s call v, runWith sampleSite sampleWords = some (report, some s) ∧
        CallsOnce samplePreparation.arguments sampleUnit s call ∧
        s.link.verdict? 0 = some v ∧
        Shows samplePreparation.arguments sampleUnit v report := by
  refine ⟨prepare_sample, compile_sample, ?_⟩
  obtain ⟨-, -, report, s, call, v, -, -, -, run, calls, verdict, shows⟩ :=
    runWith_calls_once prepare_sample compile_sample
  exact ⟨report, s, call, v, run, calls, verdict, shows⟩

end Runner

end PanelScript
