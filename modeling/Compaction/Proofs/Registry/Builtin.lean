import Compaction.Registry.Builtin

/-!
# What the built-in registry builds

* `Registry.builtin_get_of_mem`, `Registry.builtin_get_of_not_mem` : each built-in factory is found under its name,
  and nothing under any other name;
* `Builtin.Refuses` : why nothing is built from a name and arguments;
* `Registry.builtin_get_eq_error_iff` : exactly then there is an error, and it is that one;
* `Registry.builtin_get_congr` : which of the arguments the built-in processors look at, and how;
* `Registry.name_of_builtin_get` : what is built reports under the name it was asked for by.
-/

namespace Compaction

/-! ## Look-up -/

namespace Registry

theorem factories_foldl (entries : List (String × Factory)) (registry : Registry) :
    (entries.foldl (fun registry entry => registry.insert entry.1 entry.2) registry).factories =
      entries.foldl (fun table entry => table.insert entry.1 entry.2) registry.factories := by
  induction entries generalizing registry with
  | nil => rfl
  | cons entry entries ih => rw [List.foldl_cons, ih, List.foldl_cons, insert]

theorem factories_builtin : builtin.factories = Table.ofEntries Builtin.all := factories_foldl Builtin.all empty

theorem builtin_get_of_mem {name : String} {factory : Factory} (hmem : (name, factory) ∈ Builtin.all)
    (args : StageArgs) : builtin.get name args = factory args := by
  have hdistinct : (Builtin.all.map Prod.fst).Nodup := by decide
  rw [get, factories_builtin, Table.find?_ofEntries_of_mem hdistinct hmem]

theorem builtin_get_of_not_mem {name : String} (hname : name ∉ Builtin.all.map Prod.fst) (args : StageArgs) :
    builtin.get name args = .error (.unknownProcessor name) := by
  have hnone : builtin.factories.find? name = none := by
    rw [factories_builtin, Table.ofEntries, Table.find?_foldl_of_not_mem [] hname]
    rfl
  rw [get, hnone]

end Registry

/-! ## Factories -/

namespace Builtin

/-- Why nothing is built from a name and arguments: the name is not built in, or it is the name of a policy that
requires arguments which are not there. A missing count is reported before a missing age. -/
def Refuses (name : String) (args : StageArgs) (error : Error) : Prop :=
  (name ∉ all.map Prod.fst ∧ error = .unknownProcessor name) ∨
  (name ∈ ["max_n_observations", "max_n_observations_reverse"] ∧
    ((args.n = none ∧ error = .invalidArgument (.missing name "n")) ∨
      (args.n ≠ none ∧ args.maxAge = none ∧ error = .invalidArgument (.missing name "max_age")))) ∨
  (name = "last_n_observations" ∧
    ((args.n = none ∧ error = .invalidArgument (.missing name "n")) ∨
      (args.n = some 0 ∧ error = .invalidArgument (.notPositive "n"))))

variable {args : StageArgs} {error : Error} {p : Processor}

theorem longOutputs_eq_error_iff {framing : Framing} : longOutputs framing args = .error error ↔
    (args.n = none ∧ error = .invalidArgument (.missing (LongOutputs.name { n := 0, maxAge := 0, framing }) "n")) ∨
    (args.n ≠ none ∧ args.maxAge = none ∧
      error = .invalidArgument (.missing (LongOutputs.name { n := 0, maxAge := 0, framing }) "max_age")) := by
  obtain ⟨n, maxAge, threshold, keepLast, notice⟩ := args
  cases n with
  | none => simp [longOutputs, require, bind, Except.bind, eq_comm]
  | some n => cases maxAge <;> simp [longOutputs, require, bind, Except.bind, pure, Except.pure, eq_comm]

theorem name_of_longOutputs {framing : Framing} (h : longOutputs framing args = .ok p) :
    p.name = LongOutputs.name { n := 0, maxAge := 0, framing } := by
  obtain ⟨n, maxAge, threshold, keepLast, notice⟩ := args
  cases n with
  | none => cases h
  | some n =>
    cases maxAge with
    | none => cases h
    | some maxAge =>
      obtain rfl := Except.ok.inj h
      rfl

theorem ofCount_eq_error_iff {n : UInt64} :
    LastOutputs.ofCount n = .error error ↔ n = 0 ∧ error = .invalidArgument (.notPositive "n") := by
  have hzero : n = 0 ↔ ¬ 0 < n.toNat := by
    rw [Nat.pos_iff_ne_zero, Decidable.not_not, ← UInt64.toNat_inj]
    rfl
  rw [LastOutputs.ofCount, hzero]
  split
  · rename_i hpos
    exact iff_of_false nofun fun h => h.1 hpos
  · rename_i hpos
    rw [and_iff_right hpos, Except.error.injEq, eq_comm]

theorem name_of_ofCount {n : UInt64} {policy : LastOutputs} (h : LastOutputs.ofCount n = .ok policy) :
    policy.name = "last_n_observations" := by
  rw [LastOutputs.ofCount] at h
  split at h
  · obtain rfl := Except.ok.inj h
    rfl
  · cases h

theorem lastOutputs_of_none (hn : args.n = none) :
    lastOutputs args = .error (.invalidArgument (.missing "last_n_observations" "n")) := by
  unfold lastOutputs
  rw [hn]
  rfl

theorem lastOutputs_of_some {n : UInt64} (hn : args.n = some n) :
    lastOutputs args = (LastOutputs.ofCount n).map .lastOutputs := by
  unfold lastOutputs
  rw [hn]
  rfl

theorem lastOutputs_eq_error_iff : lastOutputs args = .error error ↔
    (args.n = none ∧ error = .invalidArgument (.missing "last_n_observations" "n")) ∨
    (args.n = some 0 ∧ error = .invalidArgument (.notPositive "n")) := by
  cases hn : args.n with
  | none => simp [lastOutputs_of_none hn, eq_comm]
  | some n =>
    have hmap : (LastOutputs.ofCount n).map Processor.lastOutputs = .error error ↔
        LastOutputs.ofCount n = .error error := by
      cases LastOutputs.ofCount n <;> simp [Except.map]
    rw [lastOutputs_of_some hn, hmap, ofCount_eq_error_iff]
    simp

theorem name_of_lastOutputs (h : lastOutputs args = .ok p) : p.name = "last_n_observations" := by
  cases hn : args.n with
  | none =>
    rw [lastOutputs_of_none hn] at h
    cases h
  | some n =>
    rw [lastOutputs_of_some hn] at h
    cases hpolicy : LastOutputs.ofCount n with
    | error fault =>
      rw [hpolicy] at h
      cases h
    | ok policy =>
      rw [hpolicy] at h
      obtain rfl := Except.ok.inj h
      exact name_of_ofCount hpolicy

theorem factory_eq_error_iff : ∀ entry ∈ all, entry.2 args = .error error ↔ Refuses entry.1 args error := by
  simp only [all, List.forall_mem_cons, List.not_mem_nil, false_imp_iff, implies_true, and_true]
  refine ⟨?_, ?_, ?_, ?_, ?_, ?_, ?_, ?_, ?_, ?_⟩
  · simp [Refuses, all, identity]
  · simp [Refuses, all, failedEdits]
  · simp [Refuses, all, longOutputs_eq_error_iff, LongOutputs.name]
  · simp [Refuses, all, longOutputs_eq_error_iff, LongOutputs.name]
  · simp [Refuses, all, lastOutputs_eq_error_iff]
  · simp [Refuses, all, lastTwo]
  · simp [Refuses, all, lastFive]
  · simp [Refuses, all, lastFiveNoFailedEdits]
  · simp [Refuses, all, fiveLongNoFailedEdits]
  · simp [Refuses, all, staleWindows]

/-- The presets and the two walks over long outputs compute their names, and yet report what they are registered
as. -/
theorem name_of_factory : ∀ entry ∈ all, entry.2 args = .ok p → p.name = entry.1 := by
  simp only [all, List.forall_mem_cons, List.not_mem_nil, false_imp_iff, implies_true, and_true]
  refine ⟨?_, ?_, name_of_longOutputs, name_of_longOutputs, name_of_lastOutputs, ?_, ?_, ?_, ?_, ?_⟩
  all_goals
    intro h
    obtain rfl := Except.ok.inj h
    rfl

/-- Nothing else of the arguments matters to a built-in processor. -/
theorem factory_congr {args' : StageArgs} (hn : args'.n = args.n) (hage : args'.maxAge = args.maxAge)
    (hthreshold : args'.threshold = args.threshold) (hedits : failedEditsOf args' = failedEditsOf args) :
    ∀ entry ∈ all, entry.2 args' = entry.2 args := by
  simp only [all, List.forall_mem_cons, List.not_mem_nil, false_imp_iff, implies_true, identity,
    failedEdits, longOutputs, lastOutputs, lastTwo, lastFive, lastFiveNoFailedEdits, fiveLongNoFailedEdits,
    staleWindows, hn, hage, hthreshold, hedits, and_self]

end Builtin

namespace Registry

variable {name : String} {args : StageArgs}

theorem builtin_get_congr {args' : StageArgs} (hn : args'.n = args.n) (hage : args'.maxAge = args.maxAge)
    (hthreshold : args'.threshold = args.threshold)
    (hedits : Builtin.failedEditsOf args' = Builtin.failedEditsOf args) (name : String) :
    builtin.get name args' = builtin.get name args := by
  by_cases hname : name ∈ Builtin.all.map Prod.fst
  · obtain ⟨⟨name, factory⟩, hmem, rfl⟩ := List.mem_map.mp hname
    rw [builtin_get_of_mem hmem, builtin_get_of_mem hmem]
    exact Builtin.factory_congr hn hage hthreshold hedits (name, factory) hmem
  · rw [builtin_get_of_not_mem hname, builtin_get_of_not_mem hname]

theorem builtin_get_eq_error_iff {error : Error} :
    builtin.get name args = .error error ↔ Builtin.Refuses name args error := by
  by_cases hname : name ∈ Builtin.all.map Prod.fst
  · obtain ⟨⟨name, factory⟩, hmem, rfl⟩ := List.mem_map.mp hname
    rw [builtin_get_of_mem hmem]
    exact Builtin.factory_eq_error_iff (name, factory) hmem
  · have hknown : name ∉ ["max_n_observations", "max_n_observations_reverse"] ∧ name ≠ "last_n_observations" := by
      simp only [Builtin.all, List.map_cons, List.map_nil, List.mem_cons, List.not_mem_nil, or_false, not_or] at hname ⊢
      exact ⟨⟨hname.2.2.1, hname.2.2.2.1⟩, hname.2.2.2.2.1⟩
    rw [builtin_get_of_not_mem hname, Except.error.injEq, eq_comm]
    simp only [Builtin.Refuses, hname, hknown.1, hknown.2, not_false_iff, true_and, false_and, or_false]

theorem name_of_builtin_get {p : Processor} (h : builtin.get name args = .ok p) : p.name = name := by
  by_cases hname : name ∈ Builtin.all.map Prod.fst
  · obtain ⟨⟨name, factory⟩, hmem, rfl⟩ := List.mem_map.mp hname
    rw [builtin_get_of_mem hmem] at h
    exact Builtin.name_of_factory (name, factory) hmem h
  · rw [builtin_get_of_not_mem hname] at h
    cases h

end Registry

end Compaction
