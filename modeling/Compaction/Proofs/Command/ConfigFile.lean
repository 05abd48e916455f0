import Compaction.Proofs.Command.Completion
import Compaction.Proofs.Command.Log
import Compaction.Proofs.Command.Words
import Compaction.Proofs.Config.Building

/-!
# Flags and config files

* `Carries`, `SpelledOutBy` : a config has a stage for each name, with the arguments that the flags give;
* `SpelledOutBy.build_eq` : such a config builds what the flags build, or fails as they do;
* `execute_congr` : as long as nothing is logged, a command only depends on what it compacts;
* `flags_and_config_file_agree` : so flags and the file of such a config lead to the same result.
-/

namespace Compaction

namespace Command

variable {o o' : Options} {w : World}

/-! ## Stages -/

/-- A stage has a name and the arguments that the flags give. -/
structure Carries (o : Options) (name : String) (spec : StageSpec) : Prop where
  name : spec.name = name
  n : spec.args.n = o.n
  maxAge : spec.args.maxAge = o.maxAge
  threshold : spec.args.threshold = o.threshold
  keepLast : spec.args.keepLast = some false ↔ o.noKeepLast = true
  notice : spec.args.notice = some .short ↔ o.shortPlaceholder = true
  unknown : spec.unknown = []

/-- The config has one stage for each name of the flags, in order, with the arguments that they give. -/
def SpelledOutBy (o : Options) (config : Config) : Prop :=
  List.Forall₂ (Carries o) o.processors config.stages

theorem Carries.failedEditsOf_eq {name : String} {spec : StageSpec} (hspec : Carries o name spec) :
    Builtin.failedEditsOf spec.args = Builtin.failedEditsOf o.stageArgs := by
  have hkeep : ∀ {keep : Option Bool} {flag : Bool}, (keep = some false ↔ flag = true) →
      keep.getD true = (if flag then some false else none).getD true := by
    rintro (_ | _ | _) (_ | _) h <;> simp_all
  have hnotice : ∀ {notice : Option Notice} {flag : Bool}, (notice = some .short ↔ flag = true) →
      notice.getD .output = (if flag then some .short else none).getD .output := by
    rintro (_ | _ | _) (_ | _) h <;> simp_all
  unfold Builtin.failedEditsOf
  rw [hkeep hspec.keepLast, hnotice hspec.notice]
  rfl

theorem Carries.buildStage_eq {name : String} {spec : StageSpec} (hspec : Carries o name spec) :
    Config.buildStage .builtin spec = Registry.builtin.get name o.stageArgs := by
  rw [← hspec.name, Config.buildStage_of_unknown_eq_nil hspec.unknown,
    Registry.builtin_get_congr hspec.n hspec.maxAge hspec.threshold hspec.failedEditsOf_eq]

/-- What a config of this form builds is determined by the flags. -/
theorem SpelledOutBy.build_eq {config : Config} (hconfig : SpelledOutBy o config) :
    config.build =
      (o.processors.mapM fun name => Registry.builtin.get name o.stageArgs).map fun stages => { stages } := by
  rw [Config.build, Config.buildWith_eq_map,
    mapM_eq_of_forall₂ (hconfig.flip.imp fun spec name hspec => Carries.buildStage_eq hspec)]

theorem SpelledOutBy.unknown {config : Config} (hconfig : SpelledOutBy o config) :
    ∀ spec ∈ config.stages, spec.unknown = [] := by
  have hboth : List.Forall₂ (fun spec name => spec.unknown = [] ∧ Carries o name spec)
      config.stages o.processors := hconfig.flip.imp fun _ _ hspec => ⟨hspec.unknown, hspec⟩
  exact ((List.forall₂_and_left config.stages o.processors).mp hboth).1

/-- The stages that the flags themselves stand for. -/
theorem spelledOutBy_stages (o : Options) : SpelledOutBy o o.stages := by
  have hfold : ∀ (names : List String) (config : Config),
      (names.foldl (fun config name => config.push { name, args := o.stageArgs }) config).stages =
        config.stages ++ names.map fun name => { name, args := o.stageArgs } := by
    intro names
    induction names with
    | nil => intro config; rw [List.foldl_nil, List.map_nil, List.append_nil]
    | cons name names ih =>
      intro config
      rw [List.foldl_cons, ih, Config.push, List.append_assoc, List.map_cons, List.singleton_append]
  unfold SpelledOutBy Options.stages
  rw [hfold, List.nil_append, List.forall₂_map_right_iff, List.forall₂_same]
  intro name _
  exact ⟨rfl, rfl, rfl, rfl, by simp [Options.stageArgs], by simp [Options.stageArgs], rfl⟩

/-! ## Commands -/

/-- The options ask for the same, apart from where the stages come from. -/
structure SameSurroundings (o o' : Options) : Prop where
  input : o'.input = o.input
  output : o'.output = o.output
  pretty : o'.pretty = o.pretty
  stats : o'.stats = o.stats
  list : o'.list = o.list

theorem readInput_congr (hinput : o'.input = o.input) : readInput o' w = readInput o w := by
  unfold readInput
  rw [hinput]

theorem compact_snd_congr (hinput : o'.input = o.input)
    (hbuild : ((loadConfig o' w.files).bind fun loaded => loaded.1.build) =
      (loadConfig o w.files).bind fun loaded => loaded.1.build) :
    (compact o' w).2 = (compact o w).2 := by
  have hbind : ∀ o : Options, (compact o w).2 =
      ((loadConfig o w.files).bind fun loaded => loaded.1.build).bind fun pipeline =>
        (readInput o w).map fun before =>
          ⟨pipeline.stages.length, before, (pipeline.process before).history⟩ := by
    intro o
    rw [compact_snd]
    cases loadConfig o w.files <;> rfl
  rw [hbind, hbind, hbuild, readInput_congr hinput]

theorem execute_congr (hsame : SameSurroundings o o') (hlog : ∀ events, logText o w events = "")
    (hlog' : ∀ events, logText o' w events = "") (hcompact : (compact o' w).2 = (compact o w).2) :
    execute o' w = execute o w := by
  have hwritten : written o' = written o := by
    unfold written
    rw [hsame.pretty]
  unfold execute
  cases hc : compact o w with
  | mk events result =>
    cases hc' : compact o' w with
    | mk events' result' =>
      rw [hc, hc'] at hcompact
      obtain rfl : result' = result := hcompact
      cases result' <;> simp only [hlog, hlog', hsame.list, hsame.stats, hsame.output, hwritten]

theorem execute_eq_of_config {config : Config} {path text : String} (hsame : SameSurroundings o o')
    (hnone : o.config = none) (hpath : o'.config = some path) (hverbose : o.verbose = false)
    (hverbose' : o'.verbose = false) (hfilter : w.logFilter = none) (hread : w.files.read path = .ok text)
    (hconfig : SpelledOutBy o config) (htext : config.HasText text) : execute o' w = execute o w := by
  have hload : loadConfig o w.files = .ok (o.stages, []) := by
    rw [loadConfig, hnone]
  have hload' : loadConfig o' w.files = .ok (config, [.configLoaded path config.stages.length]) := by
    rw [loadConfig, hpath]
    simp only [hread, htext.ofText_eq hconfig.unknown]
    rfl
  refine execute_congr hsame (logText_eq_empty hverbose hfilter) (logText_eq_empty hverbose' hfilter) ?_
  apply compact_snd_congr hsame.input
  rw [hload, hload']
  show config.build = o.stages.build
  rw [hconfig.build_eq, (spelledOutBy_stages o).build_eq]

/-! ## Main result -/

/-- **Flags and a config file spell out the same pipeline.** Let a file hold the text of a config with one
stage for each name of the flags, in order, with the arguments that the flags give. A command with the
flags and a command with the file, which are otherwise asked for the same and log nothing, lead to the same
exit code, outputs and files, whether they fail or not. There is such a config for all options, and what is
written for it is a text of it; and all proper options are asked for by some words. -/
theorem flags_and_config_file_agree :
    (∀ (flags file : List String) (o o' : Options) (config : Config) (path text : String) (w : World),
      Options.ofWords? flags = some o → Options.ofWords? file = some o' →
      o.config = none → o'.config = some path → SameSurroundings o o' →
      o.verbose = false → o'.verbose = false → w.logFilter = none →
      SpelledOutBy o config → config.HasText text → w.files.read path = .ok text →
      run file w = run flags w) ∧
    (∀ o : Options, SpelledOutBy o o.stages ∧ o.stages.HasText o.stages.compact) ∧
    ∀ o : Options, o.IsProper → Options.ofWords? o.words = some o := by
  refine ⟨?_, ?_, fun o => Options.ofWords?_words⟩
  · intro flags file o o' config path text w hflags hfile hnone hpath hsame hverbose hverbose' hfilter
      hconfig htext hread
    unfold run
    rw [hflags, hfile]
    exact execute_eq_of_config hsame hnone hpath hverbose hverbose' hfilter hread hconfig htext
  · intro o
    exact ⟨spelledOutBy_stages o, Config.hasText_compact (spelledOutBy_stages o).unknown⟩

/-- Two stages, of which the second lacks its count. -/
def withoutCount : Options where
  processors := ["strip_failed_edits", "last_n_observations"]
  maxAge := some 7
  shortPlaceholder := true

def withoutCountConfig : Config :=
  ⟨[{ name := "strip_failed_edits",
      args := { maxAge := some 7, keepLast := some true, notice := some .short } },
    { name := "last_n_observations", args := { maxAge := some 7, notice := some .short } }]⟩

def withoutCountFile : World := { files := [("c.json", .text withoutCountConfig.compact)] }

theorem spelledOutBy_withoutCount : SpelledOutBy withoutCount withoutCountConfig := by
  refine .cons ?_ (.cons ?_ .nil) <;> exact ⟨rfl, rfl, rfl, rfl, by decide, by decide, rfl⟩

/-- Both commands report the missing count. A count that stands next to the config file is of no use. -/
theorem flags_and_config_file_agree_withoutCount :
    run ["--config=c.json", "--n=3"] withoutCountFile =
      run ["-p", "strip_failed_edits", "-plast_n_observations", "--max-age", "+07", "--short-placeholder"]
        withoutCountFile ∧
    (run ["--config=c.json", "--n=3"] withoutCountFile).stderr =
      "Error: invalid argument: last_n_observations requires argument \x60n\x60\n" ∧
    Options.ofWords? withoutCount.words = some withoutCount := by
  have hflags : Options.ofWords?
      ["-p", "strip_failed_edits", "-plast_n_observations", "--max-age", "+07", "--short-placeholder"] =
        some withoutCount := by decide
  have hfile : Options.ofWords? ["--config=c.json", "--n=3"] =
      some { config := some "c.json", n := some 3 } := by decide
  have htext : withoutCountConfig.HasText withoutCountConfig.compact :=
    Config.hasText_compact spelledOutBy_withoutCount.unknown
  have hsame := flags_and_config_file_agree.1 _ _ _ _ _ "c.json" _ withoutCountFile hflags hfile rfl rfl
    ⟨rfl, rfl, rfl, rfl, rfl⟩ rfl rfl rfl spelledOutBy_withoutCount htext rfl
  refine ⟨hsame, ?_, ?_⟩
  · rw [hsame]
    decide
  · exact flags_and_config_file_agree.2.2 withoutCount ⟨nofun, nofun, nofun, .inl rfl⟩

end Command

end Compaction
