import Compaction.Proofs.Processor.Nesting
import Compaction.Proofs.Registry.Builtin

/-!
# Presets and the stages they stand for

* `Builtin.presetParts` : each preset with the names and arguments of the stages that it stands for;
* `Builtin.buildParts` : these stages, as the registry builds them;
* `Builtin.exists_presetParts` : the preset and its stages are built from any arguments, and return the same;
* `SpelledOut` : presets, anywhere in some trees, are replaced by their stages (`SpelledOut.runAll_eq`);
* `Builtin.nesting_and_presets_keep_the_result` : neither the nesting nor the choice between a preset and its stages
  changes what a tree returns.
-/

namespace Compaction

open AnyProcessor (runAll)

namespace Builtin

/-! ## Parts -/

/-- The presets, and what each of them stands for. The presets without failed edits pass their arguments on to the
first stage; nothing else in the arguments matters. -/
def presetParts (args : StageArgs) : List (String × List (String × StageArgs)) := [
  ("last_2_observations", [("last_n_observations", { n := some 2 })]),
  ("last_5_observations", [("last_n_observations", { n := some 5 })]),
  ("last_5_observations_no_fe", [("strip_failed_edits", args), ("last_n_observations", { n := some 5 })]),
  ("max_5_observations_no_fe",
    [("strip_failed_edits", args), ("max_n_observations", { n := some 5, maxAge := some 10 })])]

/-- Stages that are built one by one from their names and arguments. -/
def buildParts (parts : List (String × StageArgs)) : Except Error (List Processor) :=
  parts.mapM fun part => Registry.builtin.get part.1 part.2

theorem buildParts_nil : buildParts [] = .ok [] := rfl

theorem buildParts_cons {name : String} {args : StageArgs} {parts : List (String × StageArgs)} {stage : Processor}
    {stages : List Processor} (hstage : Registry.builtin.get name args = .ok stage)
    (hstages : buildParts parts = .ok stages) : buildParts ((name, args) :: parts) = .ok (stage :: stages) := by
  rw [buildParts] at hstages ⊢
  rw [List.mapM_cons, hstage, hstages]
  rfl

theorem get_failedEdits (args : StageArgs) :
    Registry.builtin.get "strip_failed_edits" args = .ok (.failedEdits (failedEditsOf args)) := by
  have hmem : ("strip_failed_edits", failedEdits) ∈ all := by simp [all]
  exact Registry.builtin_get_of_mem hmem args

theorem get_lastOutputs {n : UInt64} (hpos : 0 < n.toNat) :
    Registry.builtin.get "last_n_observations" { n := some n } = .ok (.lastOutputs { n := n.toNat, pos := hpos }) := by
  have hmem : ("last_n_observations", lastOutputs) ∈ all := by simp [all]
  rw [Registry.builtin_get_of_mem hmem, lastOutputs_of_some rfl, LastOutputs.ofCount, dif_pos hpos]
  rfl

theorem get_longOutputs (n maxAge : UInt64) :
    Registry.builtin.get "max_n_observations" { n := some n, maxAge := some maxAge } =
      .ok (.longOutputs { n := n.toNat, maxAge := maxAge.toNat }) := by
  have hmem : ("max_n_observations", longOutputs .forward) ∈ all := by simp [all]
  exact Registry.builtin_get_of_mem hmem _

theorem get_lastFiveNoFailedEdits (args : StageArgs) :
    Registry.builtin.get "last_5_observations_no_fe" args = lastFiveNoFailedEdits args := by
  have hmem : ("last_5_observations_no_fe", lastFiveNoFailedEdits) ∈ all := by simp [all]
  exact Registry.builtin_get_of_mem hmem args

/-- The name of the policy goes into what it reports, and nowhere else. -/
theorem run_lastOutputs_name (n : Nat) (pos : 0 < n) (name : String) :
    (Processor.lastOutputs { n, pos, name }).run = (Processor.lastOutputs { n, pos }).run := rfl

/-- Each preset and its stages are built from any arguments, and the stages return what the preset returns. -/
theorem exists_presetParts (args : StageArgs) : ∀ entry ∈ presetParts args, ∃ preset stages,
    Registry.builtin.get entry.1 args = .ok preset ∧ buildParts entry.2 = .ok stages ∧
      ∀ h, runAll (stages.map Processor.toAny) h = preset.run h := by
  have htwo : ("last_2_observations", lastTwo) ∈ all := by simp [all]
  have hfive : ("last_5_observations", lastFive) ∈ all := by simp [all]
  have hfiveLong : ("max_5_observations_no_fe", fiveLongNoFailedEdits) ∈ all := by simp [all]
  have hlast (n : UInt64) (hpos : 0 < n.toNat) := buildParts_cons (get_lastOutputs hpos) buildParts_nil
  have hlong := buildParts_cons (get_longOutputs 5 10) buildParts_nil
  simp only [presetParts, List.forall_mem_cons, List.not_mem_nil, false_imp_iff, implies_true, and_true]
  refine ⟨⟨_, _, Registry.builtin_get_of_mem htwo args, hlast 2 (by decide), ?_⟩,
    ⟨_, _, Registry.builtin_get_of_mem hfive args, hlast 5 (by decide), ?_⟩,
    ⟨_, _, get_lastFiveNoFailedEdits args, buildParts_cons (get_failedEdits args) (hlast 5 (by decide)), ?_⟩,
    ⟨_, _, Registry.builtin_get_of_mem hfiveLong args, buildParts_cons (get_failedEdits args) hlong, ?_⟩⟩
  · intro h
    rw [run_lastOutputs_name]
    rfl
  · intro h
    rw [run_lastOutputs_name]
    rfl
  · intro h
    rw [Processor.run_pipeline]
    rfl
  · intro h
    rw [Processor.run_pipeline]
    rfl

/-- A preset that the registry builds from arguments, and the stages that it stands for. -/
def IsPreset (preset : Processor) (stages : List Processor) : Prop :=
  ∃ args, ∃ entry ∈ presetParts args,
    Registry.builtin.get entry.1 args = .ok preset ∧ buildParts entry.2 = .ok stages

theorem runAll_of_isPreset {preset : Processor} {stages : List Processor} (hpreset : IsPreset preset stages)
    (h : History) : runAll (stages.map Processor.toAny) h = preset.run h := by
  obtain ⟨args, entry, hentry, hget, hbuild⟩ := hpreset
  obtain ⟨preset', stages', hget', hbuild', hrun⟩ := exists_presetParts args entry hentry
  obtain rfl := Except.ok.inj (hget.symm.trans hget')
  obtain rfl := Except.ok.inj (hbuild.symm.trans hbuild')
  exact hrun h

end Builtin

/-! ## Presets in a tree -/

/-- The trees on the right are those on the left, except that presets are replaced by the stages they stand for, at
any places and at any depth. -/
inductive SpelledOut : List Tree → List Tree → Prop
  | nil : SpelledOut [] []
  | keep {ts ts' : List Tree} (t : Tree) (rest : SpelledOut ts ts') : SpelledOut (t :: ts) (t :: ts')
  | within {stages stages' ts ts' : List Tree} (name : String) (inner : SpelledOut stages stages')
    (rest : SpelledOut ts ts') : SpelledOut (.pipeline name stages :: ts) (.pipeline name stages' :: ts')
  /-- The first tree is a preset, and its stages take its place. -/
  | preset {preset : Processor} {stages : List Processor} {t : Tree} {ts ts' us : List Tree}
    (isPreset : Builtin.IsPreset preset stages) (before : t.toAny = preset.toAny)
    (after : us.map Tree.toAny = stages.map Processor.toAny) (rest : SpelledOut ts ts') :
    SpelledOut (t :: ts) (us ++ ts')

namespace SpelledOut

theorem runAll_eq {ts ts' : List Tree} (hts : SpelledOut ts ts') (h : History) :
    runAll (ts'.map Tree.toAny) h = runAll (ts.map Tree.toAny) h := by
  induction hts generalizing h with
  | nil => rfl
  | keep t _ ih => rw [List.map_cons, List.map_cons, AnyProcessor.runAll_cons, AnyProcessor.runAll_cons, ih]
  | @within stages stages' ts ts' name _ _ ihInner ih =>
    have hpipeline : (Tree.pipeline name stages').toAny.run h = (Tree.pipeline name stages).toAny.run h :=
      (Tree.run_pipeline name stages' h).trans ((ihInner h).trans (Tree.run_pipeline name stages h).symm)
    rw [List.map_cons, List.map_cons, AnyProcessor.runAll_cons, AnyProcessor.runAll_cons, ih, hpipeline]
  | preset isPreset before after _ ih =>
    rw [List.map_append, after, AnyProcessor.runAll_append, Builtin.runAll_of_isPreset isPreset, List.map_cons,
      before, AnyProcessor.runAll_cons, Processor.run_toAny, ih]

end SpelledOut

/-! ## Main result -/

namespace Builtin

/-- **Nesting and presets do not change what is returned.** In a tree of pipelines over any processors, the leaves
run from left to right, each on what the one before it has returned; the tree of a processor is the same stage as the
processor, and has the same leaves, which run alike. From any arguments each preset is built, and so are the stages
that it stands for. A tree in which presets are replaced by their stages, at any places, returns what it returned
before. -/
theorem nesting_and_presets_keep_the_result :
    (∀ (t : Tree) (h : History), t.run h = t.leaves.foldl (fun h leaf => leaf.run h) h) ∧
    (∀ p : Processor, p.toTree.toAny = p.toAny ∧ p.toTree.leaves = p.leaves.map Processor.toAny ∧
      ∀ h, p.run h = p.leaves.foldl (fun h leaf => leaf.run h) h) ∧
    (∀ args, ∀ entry ∈ presetParts args, ∃ preset stages,
      Registry.builtin.get entry.1 args = .ok preset ∧ buildParts entry.2 = .ok stages) ∧
    ∀ (t : Tree) (ts : List Tree), SpelledOut [t] ts → ∀ h,
      (∀ name, (Tree.pipeline name ts).run h = t.run h) ∧ ∀ t', ts = [t'] → t'.run h = t.run h := by
  refine ⟨Tree.run_eq_foldl_leaves, fun p => ⟨p.toAny_toTree, p.leaves_toTree, p.run_eq_foldl_leaves⟩, ?_, ?_⟩
  · intro args entry hentry
    obtain ⟨preset, stages, hget, hbuild, -⟩ := exists_presetParts args entry hentry
    exact ⟨preset, stages, hget, hbuild⟩
  · intro t ts hts h
    have hrun : runAll (ts.map Tree.toAny) h = t.run h := hts.runAll_eq h
    refine ⟨fun name => (Tree.run_pipeline name ts h).trans hrun, ?_⟩
    rintro t' rfl
    exact hrun

/-- The arguments of a preset that are not the defaults. -/
def strict : StageArgs := { keepLast := some false, notice := some .short, maxAge := some 1 }

/-- A processor that is not built in: it turns a transcript around. -/
def turned : AnyProcessor := ⟨"turned", fun h => ⟨h.reverse, []⟩⟩

def fiveKept : LastOutputs := { n := 5, pos := Nat.succ_pos 4 }

def lastFiveStrict : Processor :=
  .pipeline "last_5_observations_no_fe" [.failedEdits (failedEditsOf strict), .lastOutputs fiveKept]

def presetInside : Tree :=
  .pipeline "outer" [.leaf turned, .pipeline "middle" [.pipeline "inner" [lastFiveStrict.toTree], .leaf turned]]

def stagesInside : Tree :=
  .pipeline "outer" [.leaf turned, .pipeline "middle"
    [.pipeline "inner" [.leaf (Processor.failedEdits (failedEditsOf strict)).toAny,
      .leaf (Processor.lastOutputs fiveKept).toAny], .leaf turned]]

theorem isPreset_lastFiveStrict :
    IsPreset lastFiveStrict [.failedEdits (failedEditsOf strict), .lastOutputs fiveKept] := by
  refine ⟨strict, _, List.mem_cons_of_mem _ (List.mem_cons_of_mem _ List.mem_cons_self),
    get_lastFiveNoFailedEdits strict, ?_⟩
  exact buildParts_cons (get_failedEdits strict) (buildParts_cons (get_lastOutputs (by decide)) buildParts_nil)

theorem spelledOut_presetInside : SpelledOut [presetInside] [stagesInside] := by
  have hinner : SpelledOut [lastFiveStrict.toTree] ([.leaf (Processor.failedEdits (failedEditsOf strict)).toAny,
      .leaf (Processor.lastOutputs fiveKept).toAny] ++ []) :=
    .preset isPreset_lastFiveStrict lastFiveStrict.toAny_toTree rfl .nil
  exact .within "outer" (.keep _ (.within "middle" (.within "inner" hinner (.keep _ .nil)) .nil)) .nil

/-- The preset is built, and with its stages in its place the tree returns the same. -/
theorem nesting_and_presets_keep_the_result_inside :
    (∃ preset stages, Registry.builtin.get "max_5_observations_no_fe" strict = .ok preset ∧
      buildParts [("strip_failed_edits", strict), ("max_n_observations", { n := some 5, maxAge := some 10 })] =
        .ok stages) ∧
    SpelledOut [presetInside] [stagesInside] ∧
    ∀ h, stagesInside.run h = presetInside.run h := by
  refine ⟨?_, spelledOut_presetInside, fun h => ?_⟩
  · exact nesting_and_presets_keep_the_result.2.2.1 strict ("max_5_observations_no_fe", _) (by simp [presetParts])
  · exact (nesting_and_presets_keep_the_result.2.2.2 _ _ spelledOut_presetInside h).2 _ rfl

end Builtin

end Compaction
