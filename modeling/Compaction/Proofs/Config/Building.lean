import Compaction.Proofs.Config.RoundTrip
import Compaction.Proofs.Registry.Builtin

/-!
# How a config is built

* `mapM_eq_ok_iff`, `mapM_eq_error_iff` : attempts at all elements of a list, up to the first that fails;
* `Config.Builds`, `Config.Fails` : the processor that a stage is built into, and why there is none
  (`Config.buildStage_eq_ok_iff`, `Config.buildStage_eq_error_iff`);
* `Config.buildWith_eq_ok_iff`, `Config.buildWith_eq_error_iff` : a config is built stage by stage, or fails as its
  first stage that fails;
* `Config.names_of_builds`, `Config.build_ne_config_error` : with the built-in registry, the stages of the
  pipeline have the names in the config, and a config that has been read is no faulty config any more;
* `Config.build_is_all_or_first_error` : all this together.
-/

namespace Compaction

/-! ## Attempts -/

section
variable {α β ε : Type} {f : α → Except ε β} {as : List α}

theorem mapM_eq_ok_iff {bs : List β} : as.mapM f = .ok bs ↔ List.Forall₂ (fun a b => f a = .ok b) as bs := by
  induction as generalizing bs with
  | nil =>
    rw [List.mapM_nil, List.forall₂_nil_left_iff]
    exact ⟨fun h => (Except.ok.inj h).symm, fun h => h ▸ rfl⟩
  | cons a as ih =>
    rw [List.mapM_cons, List.forall₂_cons_left_iff]
    simp only [← ih]
    cases ha : f a with
    | error e => exact iff_of_false nofun fun ⟨_, _, h, _⟩ => nomatch h
    | ok b =>
      cases has : as.mapM f with
      | error e => exact iff_of_false nofun fun ⟨_, _, _, h, _⟩ => nomatch h
      | ok rest =>
        constructor
        · intro h
          exact ⟨b, rest, rfl, rfl, (Except.ok.inj h).symm⟩
        · rintro ⟨_, _, ⟨rfl⟩, ⟨rfl⟩, rfl⟩
          rfl

/-- The elements behind the first that fails do not matter. -/
theorem mapM_eq_error_iff {e : ε} : as.mapM f = .error e ↔
    ∃ before a after, as = before ++ a :: after ∧ (∀ b ∈ before, ∃ c, f b = .ok c) ∧ f a = .error e := by
  induction as with
  | nil =>
    refine iff_of_false nofun ?_
    rintro ⟨before, a, after, h, -⟩
    exact List.cons_ne_nil _ _ (List.append_eq_nil_iff.mp h.symm).2
  | cons first rest ih =>
    rw [List.mapM_cons]
    cases hfirst : f first with
    | error e' =>
      constructor
      · intro h
        obtain rfl := Except.error.inj h
        exact ⟨[], first, rest, rfl, nofun, hfirst⟩
      · rintro ⟨_ | ⟨b, before⟩, a, after, h, hbefore, ha⟩
        · obtain ⟨rfl, -⟩ := List.cons.inj h
          rw [← hfirst, ha]
          rfl
        · obtain ⟨rfl, -⟩ := List.cons.inj h
          obtain ⟨c, hc⟩ := hbefore first List.mem_cons_self
          cases hfirst.symm.trans hc
    | ok c =>
      -- The first element belongs to those before the one that fails.
      have hrest : (do let b ← Except.ok c; let bs ← rest.mapM f; pure (b :: bs)) = Except.error e ↔
          rest.mapM f = .error e := by
        cases rest.mapM f with
        | error e' => exact Iff.rfl
        | ok bs => exact iff_of_false nofun nofun
      rw [hrest, ih]
      constructor
      · rintro ⟨before, a, after, rfl, hbefore, ha⟩
        exact ⟨first :: before, a, after, rfl, List.forall_mem_cons.mpr ⟨⟨c, hfirst⟩, hbefore⟩, ha⟩
      · rintro ⟨_ | ⟨b, before⟩, a, after, h, hbefore, ha⟩
        · obtain ⟨rfl, -⟩ := List.cons.inj h
          cases hfirst.symm.trans ha
        · obtain ⟨rfl, rfl⟩ := List.cons.inj h
          exact ⟨before, a, after, rfl, (List.forall_mem_cons.mp hbefore).2, ha⟩

/-- Attempts that agree element by element agree as a whole. -/
theorem mapM_eq_of_forall₂ {γ : Type} {g : γ → Except ε β} {cs : List γ}
    (h : List.Forall₂ (fun a c => f a = g c) as cs) : as.mapM f = cs.mapM g := by
  induction h with
  | nil => rfl
  | cons hac _ ih => rw [List.mapM_cons, List.mapM_cons, hac, ih]

end

namespace Config

variable {α : Type} {config : Config} {registry : Registry α} {spec : StageSpec} {pipeline : Pipeline α} {error : Error}

/-! ## One stage -/

/-- A stage is built into the processor that the registry has for it, provided that it has no other members. -/
def Builds (registry : Registry α) (spec : StageSpec) (p : α) : Prop :=
  spec.unknown = [] ∧ registry.get spec.name spec.args = .ok p

/-- Why a stage cannot be built: it has other members, or else the registry has nothing for it. -/
def Fails (registry : Registry α) (spec : StageSpec) (error : Error) : Prop :=
  (spec.unknown ≠ [] ∧ error = .config (.unknownArguments spec.name spec.unknown.names)) ∨
  (spec.unknown = [] ∧ registry.get spec.name spec.args = .error error)

theorem buildStage_of_unknown_eq_nil (hunknown : spec.unknown = []) :
    buildStage registry spec = registry.get spec.name spec.args := by
  rw [buildStage, StageSpec.validate, hunknown]
  rfl

theorem buildStage_of_unknown_ne_nil (hunknown : spec.unknown ≠ []) :
    buildStage registry spec = .error (.config (.unknownArguments spec.name spec.unknown.names)) := by
  rw [buildStage, StageSpec.validate, if_neg (mt List.isEmpty_iff.mp hunknown)]
  rfl

theorem buildStage_eq_ok_iff {p : α} : buildStage registry spec = .ok p ↔ Builds registry spec p := by
  by_cases hunknown : spec.unknown = []
  · rw [buildStage_of_unknown_eq_nil hunknown, Builds, and_iff_right hunknown]
  · rw [buildStage_of_unknown_ne_nil hunknown]
    exact iff_of_false nofun fun h => hunknown h.1

theorem buildStage_eq_error_iff : buildStage registry spec = .error error ↔ Fails registry spec error := by
  by_cases hunknown : spec.unknown = []
  · simp [buildStage_of_unknown_eq_nil hunknown, Fails, hunknown]
  · simp [buildStage_of_unknown_ne_nil hunknown, Fails, hunknown, eq_comm]

/-! ## All stages -/

theorem buildWith_eq_map (config : Config) (registry : Registry α) :
    config.buildWith registry = (config.stages.mapM (buildStage registry)).map fun stages => { stages } := by
  rw [buildWith]
  cases config.stages.mapM (buildStage registry) <;> rfl

theorem forall₂_builds_iff {specs : List StageSpec} {stages : List α} :
    List.Forall₂ (Builds registry) specs stages ↔ specs.mapM (buildStage registry) = .ok stages := by
  rw [mapM_eq_ok_iff]
  simp only [buildStage_eq_ok_iff]

theorem buildWith_eq_ok_iff : config.buildWith registry = .ok pipeline ↔
    pipeline.name = "pipeline" ∧ List.Forall₂ (Builds registry) config.stages pipeline.stages := by
  obtain ⟨name, stages⟩ := pipeline
  rw [forall₂_builds_iff, buildWith_eq_map]
  cases config.stages.mapM (buildStage registry) <;> simp [Except.map, eq_comm]

theorem exists_buildWith_iff : (∃ pipeline, config.buildWith registry = .ok pipeline) ↔
    ∀ spec ∈ config.stages, ∃ p, Builds registry spec p := by
  rw [← Json.exists_forall₂_iff]
  simp only [buildWith_eq_ok_iff]
  constructor
  · rintro ⟨pipeline, -, hstages⟩
    exact ⟨pipeline.stages, hstages⟩
  · rintro ⟨stages, hstages⟩
    exact ⟨{ stages }, rfl, hstages⟩

theorem buildWith_eq_error_iff : config.buildWith registry = .error error ↔
    ∃ before spec after, config.stages = before ++ spec :: after ∧
      (∀ earlier ∈ before, ∃ p, Builds registry earlier p) ∧ Fails registry spec error := by
  simp only [← buildStage_eq_error_iff, ← buildStage_eq_ok_iff]
  rw [← mapM_eq_error_iff, buildWith_eq_map]
  cases config.stages.mapM (buildStage registry) <;> simp [Except.map]

/-! ## Built-in processors -/

theorem names_of_builds {specs : List StageSpec} {stages : List Processor}
    (h : List.Forall₂ (Builds .builtin) specs stages) : stages.map Processor.name = specs.map StageSpec.name := by
  induction h with
  | nil => rfl
  | cons hspec _ ih => rw [List.map_cons, List.map_cons, Registry.name_of_builtin_get hspec.2, ih]

/-- A built-in factory finds no fault with the config. -/
theorem not_refuses_config {name : String} {args : StageArgs} {fault : ConfigFault} :
    ¬ Builtin.Refuses name args (.config fault) := by
  simp [Builtin.Refuses]

theorem build_ne_config_error {text : String} (htext : ofText text = .ok config) (fault : ConfigFault) :
    config.build ≠ .error (.config fault) := by
  have hunknown := validate_eq_ok_iff.mp (ofText_eq_ok_iff_validate.mp htext).2
  intro hbuild
  obtain ⟨before, spec, after, hstages, -, hfails⟩ := buildWith_eq_error_iff.mp hbuild
  have hspec : spec ∈ config.stages := hstages ▸ List.mem_append_right before List.mem_cons_self
  rcases hfails with ⟨hother, -⟩ | ⟨-, herror⟩
  · exact hother (hunknown spec hspec)
  · exact not_refuses_config (Registry.builtin_get_eq_error_iff.mp herror)

/-! ## Main result -/

/-- **A config is built as a whole or fails as its first stage that fails.** From a registry for processors of any kind
it is built if and only if no stage has other members and the registry has a processor for each; the pipeline then has
just these processors, in order.
Otherwise the error is that of the first stage that fails, whatever comes behind it, and other members are reported
before a failing look-up. With the built-in registry a stage without other members fails exactly if its name is not
built in, or if a count or an age that its policy requires is not there or is zero where it must be positive. The
stages of a pipeline that is built from it have the names in the config. A config that has been read from a text
fails for no fault of the config itself. -/
theorem build_is_all_or_first_error :
    (∀ (α : Type) (config : Config) (registry : Registry α),
      (∀ pipeline, config.buildWith registry = .ok pipeline ↔ pipeline.name = "pipeline" ∧
        List.Forall₂ (fun spec p => spec.unknown = [] ∧ registry.get spec.name spec.args = .ok p)
          config.stages pipeline.stages) ∧
      ((∃ pipeline, config.buildWith registry = .ok pipeline) ↔
        ∀ spec ∈ config.stages, spec.unknown = [] ∧ ∃ p, registry.get spec.name spec.args = .ok p) ∧
      ∀ error, config.buildWith registry = .error error ↔
        ∃ before spec after, config.stages = before ++ spec :: after ∧
          (∀ earlier ∈ before, earlier.unknown = [] ∧ ∃ p, registry.get earlier.name earlier.args = .ok p) ∧
          Fails registry spec error) ∧
    (∀ (spec : StageSpec) (error : Error), spec.unknown = [] →
      (Fails .builtin spec error ↔ Builtin.Refuses spec.name spec.args error)) ∧
    (∀ (config : Config) (pipeline : Pipeline), config.build = .ok pipeline →
      pipeline.stageNames = config.stages.map StageSpec.name) ∧
    ∀ (text : String) (config : Config), ofText text = .ok config → ∀ fault, config.build ≠ .error (.config fault) := by
  refine ⟨?_, ?_, ?_, ?_⟩
  · intro α config registry
    have hbuilds : ∀ spec, (∃ p, Builds registry spec p) ↔
        spec.unknown = [] ∧ ∃ p, registry.get spec.name spec.args = .ok p := fun _ => exists_and_left
    simp only [← hbuilds]
    exact ⟨fun _ => buildWith_eq_ok_iff, exists_buildWith_iff, fun _ => buildWith_eq_error_iff⟩
  · intro spec error hunknown
    rw [← buildStage_eq_error_iff, buildStage_of_unknown_eq_nil hunknown, Registry.builtin_get_eq_error_iff]
  · intro config pipeline hbuild
    exact names_of_builds (buildWith_eq_ok_iff.mp hbuild).2
  · intro text config htext fault
    exact build_ne_config_error htext fault

/-- Three stages. The second is misspelled in two ways, and the last lacks its count. -/
def misspelled : Config :=
  ⟨[{ name := "last_5_observations" },
    { name := "max_observations", unknown := [("age", .null), ("window", .null)] },
    { name := "last_n_observations" }]⟩

/-- A preset, a walk in the other direction, and a count of zero. -/
def countOfZero : Config :=
  ⟨[{ name := "max_5_observations_no_fe" },
    { name := "max_n_observations_reverse", args := { n := some 0, maxAge := some 0 } },
    { name := "last_n_observations", args := { n := some 0 } }]⟩

def presetAndReverse : Config := ⟨countOfZero.stages.take 2⟩

/-- What is found first is reported, and of two faults of a stage its other members. -/
theorem build_is_all_or_first_error_misspelled :
    misspelled.build = .error (.config (.unknownArguments "max_observations" ["age", "window"])) ∧
    Fails .builtin { name := "last_n_observations", args := { n := some 0 } }
      (.invalidArgument (.notPositive "n")) ∧
    (∃ pipeline, presetAndReverse.build = .ok pipeline ∧
      pipeline.stageNames = ["max_5_observations_no_fe", "max_n_observations_reverse"]) ∧
    ofText countOfZero.compact = .ok countOfZero ∧
    ∀ fault, countOfZero.build ≠ .error (.config fault) := by
  have hpreset : ∀ args, Registry.builtin.get "last_5_observations" args = Builtin.lastFive args :=
    Registry.builtin_get_of_mem (by simp [Builtin.all])
  have hlong : ∀ args, Registry.builtin.get "max_5_observations_no_fe" args = Builtin.fiveLongNoFailedEdits args :=
    Registry.builtin_get_of_mem (by simp [Builtin.all])
  have hreverse : ∀ args, Registry.builtin.get "max_n_observations_reverse" args = Builtin.longOutputs .reverse args :=
    Registry.builtin_get_of_mem (by simp [Builtin.all])
  refine ⟨?_, ?_, ?_, ?_, ?_⟩
  · refine ((build_is_all_or_first_error.1 _ misspelled .builtin).2.2 _).mpr ⟨[_], _, [_], rfl, ?_, ?_⟩
    · exact List.forall_mem_singleton.mpr ⟨rfl, _, hpreset _⟩
    · exact Or.inl ⟨List.cons_ne_nil _ _, rfl⟩
  · refine (build_is_all_or_first_error.2.1 _ _ rfl).mpr ?_
    simp [Builtin.Refuses]
  · obtain ⟨pipeline, hbuild⟩ := (build_is_all_or_first_error.1 _ presetAndReverse .builtin).2.1.mpr (by
      refine List.forall_mem_cons.mpr ⟨⟨rfl, _, hlong _⟩, ?_⟩
      exact List.forall_mem_singleton.mpr ⟨rfl, _, hreverse _⟩)
    exact ⟨pipeline, hbuild, build_is_all_or_first_error.2.2.1 _ _ hbuild⟩
  · exact ofText_compact (by simp [countOfZero])
  · exact build_is_all_or_first_error.2.2.2 _ _ (ofText_compact (by simp [countOfZero]))

end Config

end Compaction
