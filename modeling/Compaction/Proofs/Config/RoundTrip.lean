import Compaction.Proofs.Config.Reading

/-!
# Written configs are read back

* `StageSpec.members` : the members that are written for a stage;
* `StageSpec.isObject_members`, `StageSpec.readsAll_members` : an object with these members is read as that
  stage;
* `Config.compact_eq_written` : a config is written as the list of these objects;
* `Config.HasText` : a text of a config, which is read as that config (`Config.HasText.ofText_eq`);
* `Config.config_is_read_back` : a config is read back from what is written for it.
-/

namespace Compaction

open Json (Value)

/-! ## Stages -/

namespace StageSpec

/-- The members that are written for a stage, when it has no others. -/
def members (spec : StageSpec) : List (String × Value) := ("name", .string spec.name) :: spec.args.members

/-- All members of a stage are strings, numbers and truth values. -/
theorem forall_mem_members {p : String × Value → Prop} {spec : StageSpec}
    (hstring : ∀ name s, p (name, .string s)) (hnumber : ∀ name n, p (name, .ofUInt64 n))
    (hbool : ∀ name b, p (name, .bool b)) : ∀ m ∈ spec.members, p m := by
  intro m hm
  obtain rfl | hm := List.mem_cons.mp hm
  · exact hstring "name" spec.name
  · obtain ⟨n, -, rfl⟩ | ⟨n, -, rfl⟩ | ⟨n, -, rfl⟩ | ⟨b, -, rfl⟩ | ⟨notice, -, rfl⟩ :=
      StageArgs.mem_members_iff.mp hm
    · exact hnumber "n" n
    · exact hnumber "max_age" n
    · exact hnumber "long_output_char_thld" n
    · exact hbool "keep_last" b
    · exact hstring "placeholder" notice.label

theorem isExact_members (spec : StageSpec) : ∀ m ∈ spec.members, m.2.IsExact :=
  forall_mem_members (fun _ s => .string s) (fun _ _ => .number trivial) (fun _ b => .bool b)

theorem sublist_map_fst_members (spec : StageSpec) :
    (spec.members.map Prod.fst).Sublist ("name" :: StageArgs.names) :=
  (StageArgs.sublist_names_members spec.args).cons_cons "name"

theorem isObject_members (spec : StageSpec) : IsObject spec.members where
  distinct := List.Nodup.sublist spec.sublist_map_fst_members (by decide)
  depth_le := forall_mem_members (fun _ _ => Nat.zero_le _) (fun _ _ => Nat.zero_le _)
    fun _ _ => Nat.zero_le _

/-- The members that are written for a stage stand for that stage. -/
theorem readsAll_members {spec : StageSpec} (hunknown : spec.unknown = []) :
    ReadsAll spec.members spec where
  name := List.mem_cons_self
  args := by
    show StageArgs.GivenBy .kept ([] ++ ("name", .string spec.name) :: spec.args.members) spec.args
    rw [givenBy_append_iff]
    exact StageArgs.givenBy_members .kept spec.args
  unknown := hunknown
  known := by
    intro m hm hother
    obtain hname | hname := List.mem_cons.mp
      (spec.sublist_map_fst_members.subset (List.mem_map_of_mem hm))
    · exact hother.1 hname
    · exact hother.2 hname

end StageSpec

/-! ## Configs -/

namespace Config

/-- A config whose stages have no other members is written as the list of its stages. -/
theorem compact_eq_written {config : Config} (hunknown : ∀ spec ∈ config.stages, spec.unknown = []) :
    config.compact = written (config.stages.map StageSpec.members) := by
  have hstages : config.stages.map StageSpec.toValue =
      (config.stages.map StageSpec.members).map Value.object := by
    rw [List.map_map]
    refine List.map_congr_left ?_
    intro spec hspec
    rw [StageSpec.toValue, hunknown spec hspec, List.append_nil]
    rfl
  rw [compact, toValue, hstages, written]

theorem lists_compact {config : Config} (hunknown : ∀ spec ∈ config.stages, spec.unknown = []) :
    Lists config.compact (config.stages.map StageSpec.members) := by
  rw [compact_eq_written hunknown]
  refine lists_written ?_
  rw [List.forall_mem_map]
  exact fun spec _ => spec.isExact_members

theorem isObject_of_mem_map_members (config : Config) :
    ∀ members ∈ config.stages.map StageSpec.members, StageSpec.IsObject members := by
  rw [List.forall_mem_map]
  exact fun spec _ => spec.isObject_members

theorem ofText_compact {config : Config} (hunknown : ∀ spec ∈ config.stages, spec.unknown = []) :
    ofText config.compact = .ok config := by
  rw [ofText_eq_ok_iff (lists_compact hunknown) config.isObject_of_mem_map_members,
    List.forall₂_map_left_iff, List.forall₂_same]
  exact fun spec hspec => StageSpec.readsAll_members (hunknown spec hspec)

/-- A text of a config: its stages are the objects with the members that are written for them, in whatever
order they stand and however the text is laid out. -/
def HasText (config : Config) (text : String) : Prop :=
  ∃ stages, Lists text stages ∧ List.Forall₂ List.Perm (config.stages.map StageSpec.members) stages

theorem hasText_compact {config : Config} (hunknown : ∀ spec ∈ config.stages, spec.unknown = []) :
    config.HasText config.compact :=
  ⟨_, lists_compact hunknown, List.forall₂_same.mpr fun members _ => List.Perm.refl members⟩

theorem HasText.ofText_eq {config : Config} {text : String} (htext : config.HasText text)
    (hunknown : ∀ spec ∈ config.stages, spec.unknown = []) : ofText text = .ok config := by
  obtain ⟨stages, hlists, hperm⟩ := htext
  rw [ofText_eq_ok_iff_of_perm (lists_compact hunknown) config.isObject_of_mem_map_members hlists hperm]
  exact ofText_compact hunknown

/-- **Written configs are read back.** A config whose stages have no other members is read back from what
is written for it, whatever its names and arguments. So is every config that has been read from a text,
however that text is laid out. -/
theorem config_is_read_back :
    (∀ config : Config, (∀ spec ∈ config.stages, spec.unknown = []) →
      ofText config.compact = .ok config) ∧
    ∀ text config, ofText text = .ok config → ofText config.compact = .ok config := by
  refine ⟨fun _ => ofText_compact, ?_⟩
  intro text config hread
  exact ofText_compact (validate_eq_ok_iff.mp (ofText_eq_ok_iff_validate.mp hread).2)

/-- Two stages; one has quotes and a line feed in its name and the greatest number as an argument. -/
def oddConfig : Config :=
  ⟨[{ name := "a \"b\"\n", args := { n := some 18446744073709551615, notice := some .short } },
    { name := "" }]⟩

/-- A stage whose arguments stand before its name, one of them as null. -/
def shuffledStage : List (String × Value) :=
  [("keep_last", .bool false), ("max_age", .null), ("name", .string "")]

theorem oddConfig_is_read_back :
    (∀ spec ∈ oddConfig.stages, spec.unknown = []) ∧ ofText oddConfig.compact = .ok oddConfig ∧
    ofText (written [shuffledStage]) = .ok ⟨[{ name := "", args := { keepLast := some false } }]⟩ ∧
    ofText (compact ⟨[{ name := "", args := { keepLast := some false } }]⟩) =
      .ok ⟨[{ name := "", args := { keepLast := some false } }]⟩ := by
  have hunknown : ∀ spec ∈ oddConfig.stages, spec.unknown = [] := by
    simp [oddConfig]
  have htext : Lists (written [shuffledStage]) [shuffledStage] := by
    refine lists_written ?_
    simp only [shuffledStage, List.forall_mem_cons, List.not_mem_nil, false_imp_iff, implies_true, and_true]
    exact ⟨.bool _, .null, .string _⟩
  have hstages : ∀ stage ∈ [shuffledStage], StageSpec.IsObject stage :=
    List.forall_mem_singleton.mpr ⟨by decide, by decide⟩
  have hargs : StageArgs.GivenBy .kept shuffledStage { keepLast := some false } := by
    constructor <;> simp [Json.Given, shuffledStage]
  have hread : ofText (written [shuffledStage]) =
      .ok ⟨[{ name := "", args := { keepLast := some false } }]⟩ := by
    refine (ofText_eq_ok_iff htext hstages).mpr (.cons ⟨by simp [shuffledStage], hargs, rfl, ?_⟩ .nil)
    decide
  exact ⟨hunknown, config_is_read_back.1 oddConfig hunknown, hread, config_is_read_back.2 _ _ hread⟩

end Config

end Compaction
