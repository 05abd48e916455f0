import Compaction.Config.Basic
import Compaction.Proofs.Config.Stage
import Mathlib.Data.List.Sort

/-!
# How a config is read

* `Config.Lists` : the text of a config with a list of objects as its stages, with `Config.lists_written`;
* `Config.validate_eq_ok_iff`, `Config.validate_of_append` : a config may have no other members; the first
  stage that has is the error;
* `Config.ofTextUnchecked_eq_ok_iff`, `Config.ofText_eq_ok_iff` : a config is read stage by stage;
* `Config.exists_ofText_iff`, `Config.ofText_eq_ok_iff_of_perm`, `Config.ofText_of_append` : when it is read,
  in whatever order the members come, and the error when it is not;
* `Config.no_member_is_ignored` : every member of every stage is read or is an error.
-/

namespace Compaction.Config

open Json (Document IsDocument Node Value)
open StageArgs (GivenBy HasEmptyNotice IsArgument)
open StageSpec (IsObject IsOther IsValid Reads ReadsAll withoutName)

/-! ## Texts -/

/-- The text of a config whose stages are the objects with some members. It may have other members, which
may hold whatever is well written. -/
def Lists (text : String) (stages : List (List (String × Value))) : Prop :=
  ∃ before after : List (Option String × Node),
    IsDocument (.object (before ++ (some "processors", Node.ofValue (.array (stages.map .object))) :: after)) text ∧
    ∀ m ∈ before ++ after, ∃ name, m.1 = some name ∧ name ≠ "processors"

/-- The objects with some members as the stages of a config on one line. -/
def written (stages : List (List (String × Value))) : String :=
  Value.compact (.object [("processors", .array (stages.map .object))])

/-- Written stages without floats are the stages of the text. -/
theorem lists_written {stages : List (List (String × Value))}
    (hexact : ∀ members ∈ stages, ∀ m ∈ members, m.2.IsExact) : Lists (written stages) stages := by
  have hconfig : (Value.object [("processors", .array (stages.map .object))]).IsExact := by
    refine .object ?_
    intro m hm
    obtain rfl := List.mem_singleton.mp hm
    refine .array ?_
    intro v hv
    obtain ⟨members, hmembers, rfl⟩ := List.mem_map.mp hv
    exact .object (hexact members hmembers)
  exact ⟨[], [], hconfig.isDocument, nofun⟩

/-! ## The check -/

variable {text : String} {stages : List (List (String × Value))} {config : Config}

theorem validate_eq_ok_iff :
    config.validate = .ok () ↔ ∀ spec ∈ config.stages, spec.unknown = [] := by
  obtain ⟨stages⟩ := config
  show stages.forM StageSpec.validate = .ok () ↔ _
  induction stages with
  | nil => exact iff_of_true rfl nofun
  | cons spec stages ih =>
    rw [List.forall_mem_cons, ← ih]
    show (spec.validate.bind fun _ => stages.forM StageSpec.validate) = .ok () ↔ _
    by_cases h : spec.unknown = []
    · rw [StageSpec.validate, h]
      exact (and_iff_right rfl).symm
    · rw [StageSpec.validate, if_neg (mt List.isEmpty_iff.mp h)]
      exact iff_of_false nofun fun hall => h hall.1

theorem validate_of_append {before after : List StageSpec} {spec : StageSpec}
    (hbefore : ∀ spec ∈ before, spec.unknown = []) (hspec : spec.unknown ≠ []) :
    validate ⟨before ++ spec :: after⟩ =
      .error (.config (.unknownArguments spec.name spec.unknown.names)) := by
  show (before ++ spec :: after).forM StageSpec.validate = _
  induction before with
  | nil =>
    show (spec.validate.bind fun _ => after.forM StageSpec.validate) = _
    rw [StageSpec.validate, if_neg (mt List.isEmpty_iff.mp hspec)]
    rfl
  | cons first before ih =>
    rw [List.forall_mem_cons] at hbefore
    show (first.validate.bind fun _ => (before ++ spec :: after).forM StageSpec.validate) = _
    rw [StageSpec.validate, hbefore.1, ih hbefore.2]
    rfl

theorem ofText_eq_ok_iff_validate :
    ofText text = .ok config ↔ ofTextUnchecked text = .ok config ∧ config.validate = .ok () := by
  rw [ofText]
  cases ofTextUnchecked text with
  | error fault => exact iff_of_false nofun fun h => nomatch h.1
  | ok found =>
    show found.validate.bind (fun _ => .ok found) = _ ↔ _
    rw [Except.ok.injEq]
    constructor
    · intro h
      cases hvalidate : found.validate with
      | error error =>
        rw [hvalidate] at h
        cases h
      | ok _ =>
        rw [hvalidate] at h
        obtain rfl := Except.ok.inj h
        exact ⟨rfl, hvalidate⟩
    · rintro ⟨rfl, hvalidate⟩
      rw [hvalidate]
      rfl

/-! ## The stages -/

theorem ofTextUnchecked_of_lists (htext : Lists text stages) :
    ofTextUnchecked text =
      (Json.readItems StageSpec.read (Node.ofValue (.array (stages.map .object)))).map Config.mk := by
  obtain ⟨before, after, hdocument, hothers⟩ := htext
  have hwhole := hdocument.isWhole
  rw [Node.isWhole, Node.areWholeMembers_iff, List.forall_mem_append, List.forall_mem_cons] at hwhole
  rw [List.forall_mem_append] at hothers
  have hskip : ∀ members : List (Option String × Node), (∀ m ∈ members, ∃ name, m.1 = some name ∧ name ≠ "processors") →
      (∀ m ∈ members, m.2.isWhole = true) → ∀ fields, Json.readMembers (fun fields name =>
        if name = "processors" then some (readStages fields) else none) fields members = .ok fields := by
    intro members hmembers hwhole fields
    refine Json.readMembers_unknown ?_
    intro m hm
    obtain ⟨name, hname, hne⟩ := hmembers m hm
    exact ⟨⟨name, hname, if_neg hne⟩, hwhole m hm⟩
  rw [ofTextUnchecked, hdocument.ofText_eq, Document.read]
  show (read (.object _)).bind _ = _
  rw [read, Json.readMembers_append, hskip before hothers.1 hwhole.1]
  show ((Json.readMembers _ none (_ :: after)).map _).bind _ = _
  cases hread : Json.readItems StageSpec.read (Node.ofValue (.array (stages.map .object))) with
  | error fault =>
    rw [Json.readMembers]
    simp only [↓reduceIte, readStages, Json.readField, hread]
    rfl
  | ok specs =>
    rw [Json.readMembers_known after (if_pos rfl) (Json.readField_first "processors" _ some hread),
      hskip after hothers.2 hwhole.2.2]
    rfl

/-- Before the check, a config is read if and only if every stage is. -/
theorem ofTextUnchecked_eq_ok_iff (htext : Lists text stages)
    (hstages : ∀ members ∈ stages, IsObject members) :
    ofTextUnchecked text = .ok config ↔ List.Forall₂ Reads stages config.stages := by
  obtain ⟨specs⟩ := config
  have hmap : ofTextUnchecked text = .ok ⟨specs⟩ ↔
      Json.readItems StageSpec.read (Node.ofValue (.array (stages.map .object))) = .ok specs := by
    rw [ofTextUnchecked_of_lists htext]
    cases Json.readItems StageSpec.read (Node.ofValue (.array (stages.map .object))) <;> simp [Except.map]
  rw [hmap, Node.ofValue, Node.ofValues_eq_map, Json.readItems_eq_ok_iff, List.forall₂_map_left_iff,
    List.forall₂_map_left_iff]
  exact Json.forall₂_congr_of_mem fun members hmembers spec => StageSpec.read_eq_ok_iff (hstages members hmembers)

theorem forall₂_readsAll_iff {specs : List StageSpec} :
    List.Forall₂ ReadsAll stages specs ↔
      List.Forall₂ Reads stages specs ∧ ∀ spec ∈ specs, spec.unknown = [] := by
  constructor
  · intro h
    induction h with
    | nil => exact ⟨.nil, nofun⟩
    | cons hspec _ ih =>
      obtain ⟨hreads, hunknown⟩ := StageSpec.readsAll_iff.mp hspec
      exact ⟨.cons hreads ih.1, List.forall_mem_cons.mpr ⟨hunknown, ih.2⟩⟩
  · rintro ⟨h, hunknown⟩
    induction h with
    | nil => exact .nil
    | cons hspec _ ih =>
      rw [List.forall_mem_cons] at hunknown
      exact .cons (StageSpec.readsAll_iff.mpr ⟨hspec, hunknown.1⟩) (ih hunknown.2)

theorem ofText_eq_ok_iff (htext : Lists text stages) (hstages : ∀ members ∈ stages, IsObject members) :
    ofText text = .ok config ↔ List.Forall₂ ReadsAll stages config.stages := by
  rw [ofText_eq_ok_iff_validate, ofTextUnchecked_eq_ok_iff htext hstages, validate_eq_ok_iff,
    forall₂_readsAll_iff]

/-- A config is read if and only if every stage has a name, arguments that it may have, and nothing
else. -/
theorem exists_ofText_iff (htext : Lists text stages) (hstages : ∀ members ∈ stages, IsObject members) :
    (∃ config, ofText text = .ok config) ↔
      ∀ members ∈ stages, IsValid .kept members ∧ ∀ m ∈ members, ¬ IsOther m.1 := by
  have hspecs : (∃ config, ofText text = .ok config) ↔ ∃ specs, List.Forall₂ ReadsAll stages specs := by
    simp only [ofText_eq_ok_iff htext hstages]
    exact ⟨fun ⟨config, h⟩ => ⟨config.stages, h⟩, fun ⟨specs, h⟩ => ⟨⟨specs⟩, h⟩⟩
  rw [hspecs, Json.exists_forall₂_iff]
  exact forall₂_congr fun members hmembers => StageSpec.exists_readsAll_iff (hstages members hmembers)

/-! ## The order of members -/

theorem forall₂_readsAll_of_perm {stages' : List (List (String × Value))} {specs : List StageSpec}
    (hperm : List.Forall₂ List.Perm stages stages') (h : List.Forall₂ ReadsAll stages specs) :
    List.Forall₂ ReadsAll stages' specs := by
  induction hperm generalizing specs with
  | nil => exact h
  | cons hmembers _ ih =>
    cases h with
    | cons hspec hrest => exact .cons (hspec.perm hmembers) (ih hrest)

theorem ofText_eq_ok_iff_of_perm {text' : String} {stages' : List (List (String × Value))}
    (htext : Lists text stages) (hstages : ∀ members ∈ stages, IsObject members)
    (htext' : Lists text' stages') (hperm : List.Forall₂ List.Perm stages stages') :
    ofText text' = .ok config ↔ ofText text = .ok config := by
  have hstages' : ∀ members ∈ stages', IsObject members := by
    clear htext htext'
    induction hperm with
    | nil => exact nofun
    | cons hmembers _ ih =>
      rw [List.forall_mem_cons] at hstages ⊢
      exact ⟨hstages.1.perm hmembers, ih hstages.2⟩
  have hback : List.Forall₂ List.Perm stages' stages := (hperm.imp fun _ _ h => h.symm).flip
  rw [ofText_eq_ok_iff htext hstages, ofText_eq_ok_iff htext' hstages']
  exact ⟨forall₂_readsAll_of_perm hback, forall₂_readsAll_of_perm hperm⟩

/-! ## The error -/

theorem ofText_of_append {before after : List (List (String × Value))} {members : List (String × Value)}
    (htext : Lists text (before ++ members :: after))
    (hstages : ∀ stage ∈ before ++ members :: after, IsObject stage)
    (hvalid : ∀ stage ∈ before ++ members :: after, IsValid .kept stage)
    (hbefore : ∀ stage ∈ before, ∀ m ∈ stage, ¬ IsOther m.1) (hother : ∃ m ∈ members, IsOther m.1) :
    ∃ name names, ("name", .string name) ∈ members ∧ names.Pairwise (· < ·) ∧
      (∀ key, key ∈ names ↔ key ∈ members.map Prod.fst ∧ IsOther key) ∧
      ofText text = .error (.config (.unknownArguments name names)) := by
  have hreads : ∀ stage ∈ before ++ members :: after, ∃ spec, Reads stage spec := by
    intro stage hstage
    exact (StageSpec.exists_reads_iff (hstages stage hstage)).mpr (hvalid stage hstage)
  obtain ⟨spec, hspec⟩ := hreads members (List.mem_append_right before List.mem_cons_self)
  have hafter : ∀ later ∈ after, ∃ spec, Reads later spec := fun later hlater =>
    hreads later (List.mem_append_right before (List.mem_cons_of_mem members hlater))
  obtain ⟨rest, hrest⟩ := Json.exists_forall₂_iff.mpr hafter
  -- The stages before have no other members, so nothing of them is left over.
  obtain ⟨first, hfirst⟩ := Json.exists_forall₂_iff.mpr fun earlier hearlier =>
    (StageSpec.exists_readsAll_iff (hstages earlier (List.mem_append_left _ hearlier))).mpr
      ⟨hvalid earlier (List.mem_append_left _ hearlier), hbefore earlier hearlier⟩
  obtain ⟨hfirst, hnothing⟩ := forall₂_readsAll_iff.mp hfirst
  have hunknown : spec.unknown ≠ [] := by
    rw [Ne, hspec.unknown_eq_nil_iff]
    intro hknown
    obtain ⟨m, hm, hother⟩ := hother
    exact hknown m hm hother
  have hall : List.Forall₂ Reads (before ++ members :: after) (first ++ spec :: rest) :=
    List.rel_append hfirst (.cons hspec hrest)
  have hread : ofTextUnchecked text = .ok ⟨first ++ spec :: rest⟩ :=
    (ofTextUnchecked_eq_ok_iff htext hstages).mpr hall
  refine ⟨spec.name, spec.unknown.names, hspec.name, hspec.ascending_unknown, ?_, ?_⟩
  · intro key
    exact hspec.mem_names_unknown_iff
  · rw [ofText, hread]
    show (validate ⟨first ++ spec :: rest⟩).bind _ = _
    rw [validate_of_append hnothing hunknown]
    rfl

/-! ## Main results -/

/-- **No member of a stage is ignored, and the order of members does not matter.** Let the stages of a
config be objects with distinct names. The config is read if and only if every stage has a name, its
arguments are null or have values of their types, and it has nothing else. It then has, stage by stage,
the names and arguments that the members give, and these are the arguments that the members but the name
stand for by themselves, in a text or in memory; a notice in front of an empty object is refused there.
If all names and arguments are valid, the first stage with other members is the error, which lists all of
them in ascending order. -/
theorem no_member_is_ignored (htext : Lists text stages) (hstages : ∀ stage ∈ stages, IsObject stage) :
    ((∃ config, ofText text = .ok config) ↔
      ∀ stage ∈ stages, IsValid .kept stage ∧ ∀ m ∈ stage, ¬ IsOther m.1) ∧
    (∀ config, ofText text = .ok config →
      List.Forall₂ (fun members spec =>
        ("name", .string spec.name) ∈ members ∧ GivenBy .kept members spec.args ∧ spec.unknown = [] ∧
        (∀ argsText, IsDocument (Node.ofValue (.object (withoutName members))) argsText → ∀ args,
          StageArgs.ofText argsText = .ok args ↔ args = spec.args ∧ ¬ HasEmptyNotice members) ∧
        ∀ args, StageArgs.ofValue (.object (withoutName members)) = .ok args ↔
          args = spec.args ∧ ¬ HasEmptyNotice members) stages config.stages) ∧
    (∀ text' stages', Lists text' stages' → List.Forall₂ List.Perm stages stages' →
      ∀ config, ofText text' = .ok config ↔ ofText text = .ok config) ∧
    ∀ before members after, stages = before ++ members :: after →
      (∀ stage ∈ stages, IsValid .kept stage) →
      (∀ stage ∈ before, ∀ m ∈ stage, ¬ IsOther m.1) → (∃ m ∈ members, IsOther m.1) →
      ∃ name names, ("name", .string name) ∈ members ∧ names.Pairwise (· < ·) ∧
        (∀ key, key ∈ names ↔ key ∈ members.map Prod.fst ∧ IsOther key) ∧
        ofText text = .error (.config (.unknownArguments name names)) ∧
        (Error.config (.unknownArguments name names)).message =
          "invalid config: " ++ ("stage " ++ Json.backquoted name ++ ": unknown argument(s) "
            ++ ", ".intercalate (names.map Json.backquoted)) := by
  refine ⟨exists_ofText_iff htext hstages, ?_, ?_, ?_⟩
  · intro config hconfig
    have hreads := (ofText_eq_ok_iff htext hstages).mp hconfig
    refine ((List.forall₂_and_left stages config.stages).mpr ⟨hstages, hreads⟩).imp ?_
    rintro members spec ⟨hobject, h⟩
    exact ⟨h.name, h.args, h.unknown,
      fun _ hargs _ => h.ofText_withoutName_iff hobject hargs.ofText_eq, fun _ => h.ofValue_withoutName_iff hobject⟩
  · intro text' stages' htext' hperm config
    exact ofText_eq_ok_iff_of_perm htext hstages htext' hperm
  · rintro before members after rfl hvalid hbefore hother
    obtain ⟨name, names, hname, hascending, hnames, herror⟩ :=
      ofText_of_append htext hstages hvalid hbefore hother
    exact ⟨name, names, hname, hascending, hnames, herror, rfl⟩

/-- Two stages, of which the second has other members. -/
def strayStages : List (List (String × Value)) :=
  [[("n", .null), ("name", .string "closed_window")],
    [("window", .ofUInt64 3), ("name", .string "max_n_observations"), ("alpha", .null), ("n", .ofUInt64 5)]]

theorem ofText_strayStages :
    Lists (written strayStages) strayStages ∧ (∀ stage ∈ strayStages, IsObject stage) ∧
    ofText (written strayStages) =
      .error (.config (.unknownArguments "max_n_observations" ["alpha", "window"])) := by
  have htext : Lists (written strayStages) strayStages := by
    refine lists_written ?_
    simp only [strayStages, List.forall_mem_cons, List.not_mem_nil, false_imp_iff, implies_true, and_true]
    exact ⟨⟨.null, .string _⟩, ⟨.number trivial, .string _, .null, .number trivial⟩⟩
  have hstages : ∀ stage ∈ strayStages, IsObject stage := by
    simp only [strayStages, List.forall_mem_cons, List.not_mem_nil, false_imp_iff, implies_true, and_true]
    exact ⟨⟨by decide, by decide⟩, ⟨by decide, by decide⟩⟩
  have hvalid : ∀ stage ∈ strayStages, IsValid .kept stage := by
    simp only [strayStages, List.forall_mem_cons, List.not_mem_nil, false_imp_iff, implies_true, and_true]
    refine ⟨⟨⟨"closed_window", by simp⟩, ?_⟩, ⟨⟨"max_n_observations", by simp⟩, ?_⟩⟩
    all_goals simp [StageArgs.names, IsArgument, Value.ofUInt64]
  obtain ⟨name, names, hname, hascending, hnames, herror, -⟩ :=
    (no_member_is_ignored htext hstages).2.2.2 [_] _ [] rfl hvalid (by decide) (by decide)
  obtain rfl : name = "max_n_observations" := by simpa [Value.ofUInt64] using hname
  obtain rfl : names = ["alpha", "window"] := by
    have : Std.Irrefl (α := String) (· < ·) := ⟨String.lt_irrefl⟩
    have : Std.Antisymm (α := String) (· < ·) := ⟨fun _ _ h h' => absurd h' (String.lt_asymm h)⟩
    refine hascending.eq_of_mem_iff (by decide) ?_
    intro key
    rw [hnames]
    simp only [List.map_cons, List.map_nil, List.mem_cons, List.not_mem_nil, or_false]
    constructor
    · rintro ⟨rfl | rfl | rfl | rfl, hother⟩
      · exact Or.inr rfl
      · exact absurd hother (by decide)
      · exact Or.inl rfl
      · exact absurd hother (by decide)
    · rintro (rfl | rfl) <;> decide
  exact ⟨htext, hstages, herror⟩

/-- A stage with a notice in front of an empty object. -/
def emptyNotice : List (String × Value) :=
  [("name", .string "closed_window"), ("placeholder", .object [("output", .object [])])]

/-- Such a stage is read, although its notice is neither null nor a name, alone or in front of null. -/
theorem emptyNotice_is_read :
    Lists (written [emptyNotice]) [emptyNotice] ∧ (∀ stage ∈ [emptyNotice], IsObject stage) ∧
    ofText (written [emptyNotice]) =
      .ok ⟨[{ name := "closed_window", args := { notice := some .output } }]⟩ ∧
    ¬ ((∃ config, ofText (written [emptyNotice]) = .ok config) ↔
      ∀ stage ∈ [emptyNotice], IsValid .text stage ∧ ∀ m ∈ stage, ¬ IsOther m.1) := by
  have htext : Lists (written [emptyNotice]) [emptyNotice] := by
    refine lists_written ?_
    simp only [emptyNotice, List.forall_mem_cons, List.not_mem_nil, false_imp_iff, implies_true, and_true]
    exact ⟨.string _, .object (List.forall_mem_singleton.mpr (.object nofun))⟩
  have hstages : ∀ stage ∈ [emptyNotice], IsObject stage :=
    List.forall_mem_singleton.mpr ⟨by decide, by decide⟩
  have hargs : GivenBy .kept emptyNotice { notice := some .output } := by
    refine ⟨?_, ?_, ?_, ?_, .object [("output", .object [])], by simp [emptyNotice], .emptyMember rfl⟩
    all_goals simp [Json.Given, emptyNotice]
  have hread : ofText (written [emptyNotice]) =
      .ok ⟨[{ name := "closed_window", args := { notice := some .output } }]⟩ := by
    refine (ofText_eq_ok_iff htext hstages).mpr (.cons ⟨by simp [emptyNotice], hargs, rfl, ?_⟩ .nil)
    decide
  refine ⟨htext, hstages, hread, ?_⟩
  intro hiff
  have hvalid := (hiff.mp ⟨_, hread⟩ emptyNotice List.mem_cons_self).1
  have hnotice := hvalid.arguments ("placeholder", .object [("output", .object [])]) (by simp [emptyNotice])
    (by decide)
  obtain hnull | ⟨hname, -⟩ | ⟨hname, -⟩ | ⟨-, notice, hspells⟩ := hnotice
  · cases hnull
  · exact absurd hname (by decide)
  · exact absurd hname (by decide)
  · cases hspells.eq_kept ⟨_, rfl⟩

end Compaction.Config
