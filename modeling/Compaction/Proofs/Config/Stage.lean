import Compaction.Config.Spec
import Compaction.Proofs.Registry.StageArgs

/-!
# How a stage is read

The members of a stage are kept until all of them have been seen. Each goes to one place then: the name,
the arguments, or what is left over.

* `StageSpec.IsObject` : the members of an object that can be read at all;
* `StageSpec.IsOther`, `StageSpec.others` : the members that are neither the name nor an argument;
* `StageSpec.Reads` : the stage that some members stand for, in whatever order they come;
* `StageSpec.read_eq_ok_iff` : an object is read as just this stage;
* `StageSpec.exists_reads_iff` : and that succeeds if and only if it has a name and its arguments have
  values that they may have;
* `StageSpec.Reads.unknown_eq_nil_iff`, `StageSpec.Reads.mem_names_unknown_iff` : nothing but the other
  members is left over;
* `StageSpec.ReadsAll` : the same when there are none, with `StageSpec.ReadsAll.perm`;
* `StageSpec.ReadsAll.ofText_withoutName_iff`, `StageSpec.ReadsAll.ofValue_withoutName_iff` : the members but
  the name stand for the same arguments in a text and in memory.
-/

namespace Compaction.StageSpec

open Json (Fault Node Value)
open StageArgs (GivenBy IsArgument)

/-! ## Members -/

/-- The members of an object that can be read at all: their names are distinct, and their values are not
nested deeper than a text may nest them there. -/
structure IsObject (members : List (String × Value)) : Prop where
  distinct : (members.map Prod.fst).Nodup
  depth_le : ∀ m ∈ members, m.2.depth ≤ memberRoom

/-- A name that is neither `name` nor that of an argument. -/
def IsOther (name : String) : Prop := name ≠ "name" ∧ name ∉ StageArgs.names

instance (name : String) : Decidable (IsOther name) := inferInstanceAs (Decidable (_ ∧ _))

theorem ne_name_of_mem_names {key : String} (h : key ∈ StageArgs.names) : key ≠ "name" := by
  rintro rfl
  exact absurd h (by decide)

def others (members : List (String × Value)) : List (String × Value) :=
  members.filter fun m => decide (IsOther m.1)

/-- A stage that has a name, and whose arguments have values that they may have. -/
structure IsValid (source : Json.Source) (members : List (String × Value)) : Prop where
  name : ∃ name, ("name", .string name) ∈ members
  arguments : ∀ m ∈ members, m.1 ∈ StageArgs.names → IsArgument source m.1 m.2

/-- The stage that some members stand for: their name, their arguments and all other members. -/
structure Reads (members : List (String × Value)) (spec : StageSpec) : Prop where
  name : ("name", .string spec.name) ∈ members
  args : GivenBy .kept members spec.args
  unknown : spec.unknown = Table.ofEntries (Value.canonicalMembers (others members))

/-! ## The members that are kept -/

theorem readFields_append (fields : Fields) (before after : List (Option String × Node)) :
    readFields fields (before ++ after) =
      (readFields fields before).bind fun fields => readFields fields after := by
  induction before generalizing fields with
  | nil => rfl
  | cons m before ih =>
    obtain ⟨_ | key, node⟩ := m
    · rfl
    · rw [List.cons_append, readFields, readFields]
      by_cases hkey : key = "name"
      · rw [if_pos hkey, if_pos hkey]
        split
        · rfl
        · exact ih _
        · rfl
      · rw [if_neg hkey, if_neg hkey]
        split
        · exact ih _
        · rfl

theorem readFields_ofMembers {fields : Fields} {members : List (String × Value)}
    (hname : "name" ∉ members.map Prod.fst) (hdepth : ∀ m ∈ members, m.2.depth ≤ memberRoom) :
    readFields fields (Node.ofMembers members) =
      .ok { fields with kept := members.reverse ++ fields.kept } := by
  induction members generalizing fields with
  | nil => rfl
  | cons m members ih =>
    obtain ⟨key, v⟩ := m
    rw [List.map_cons, List.mem_cons, not_or] at hname
    rw [List.forall_mem_cons] at hdepth
    rw [Node.ofMembers, readFields, if_neg (Ne.symm hname.1), Node.toValue?_ofValue hdepth.1]
    show readFields _ (Node.ofMembers members) = _
    rw [ih hname.2 hdepth.2, List.reverse_cons, List.append_assoc]
    rfl

theorem read_of_not_mem {members : List (String × Value)} (hname : "name" ∉ members.map Prod.fst)
    (hdepth : ∀ m ∈ members, m.2.depth ≤ memberRoom) :
    read (Node.ofValue (.object members)) = .error (.missingField "name") := by
  show (readFields {} (Node.ofMembers members)).bind _ = _
  rw [readFields_ofMembers hname hdepth]
  rfl

/-- A stage with one name is made from that name and the other members. -/
theorem read_of_append {before after : List (String × Value)} {v : Value}
    (hobject : IsObject (before ++ ("name", v) :: after)) :
    read (Node.ofValue (.object (before ++ ("name", v) :: after))) =
      (Json.readString (Node.ofValue v)).bind fun name => ofMembers name (before ++ after) := by
  obtain ⟨hbefore, hafter, -⟩ := Json.nodup_names_split hobject.distinct
  have hdepth := hobject.depth_le
  rw [List.forall_mem_append, List.forall_mem_cons] at hdepth
  show (readFields {} (Node.ofMembers (before ++ ("name", v) :: after))).bind _ = _
  rw [Node.ofMembers_append, readFields_append, readFields_ofMembers hbefore hdepth.1]
  show ((readFields _ ((some "name", Node.ofValue v) :: Node.ofMembers after))).bind _ = _
  rw [readFields, if_pos rfl]
  cases Json.readString (Node.ofValue v) with
  | error fault => rfl
  | ok name =>
    show (readFields _ (Node.ofMembers after)).bind _ = _
    rw [readFields_ofMembers hafter hdepth.2.2]
    show ofMembers name (after.reverse ++ (before.reverse ++ [])).reverse = _
    rw [List.append_nil, List.reverse_append, List.reverse_reverse, List.reverse_reverse]
    rfl

/-! ## The members that are left over -/

theorem others_append {before after : List (String × Value)} {v : Value}
    (hbefore : "name" ∉ before.map Prod.fst) (hafter : "name" ∉ after.map Prod.fst) :
    others (before ++ ("name", v) :: after) =
      (before ++ after).filter fun m => !StageArgs.names.contains m.1 := by
  have hother : ∀ members : List (String × Value), "name" ∉ members.map Prod.fst →
      others members = members.filter fun m => !StageArgs.names.contains m.1 := by
    intro members hname
    apply List.filter_congr
    intro m hm
    have hne : m.1 ≠ "name" := fun heq => hname (heq ▸ List.mem_map_of_mem hm)
    rw [Bool.eq_iff_iff, decide_eq_true_iff, Bool.not_eq_true', ← Bool.not_eq_true,
      List.contains_iff_mem, IsOther, and_iff_right hne]
  have hskip : others (before ++ ("name", v) :: after) = others before ++ others after := by
    rw [others, List.filter_append, List.filter_cons, if_neg]
    · rfl
    · rw [decide_eq_true_iff]
      exact fun hname => hname.1 rfl
  rw [hskip, hother before hbefore, hother after hafter, List.filter_append]

theorem ofMembers_eq_ok_iff {name : String} {kept : List (String × Value)} {spec : StageSpec}
    (hdistinct : (kept.map Prod.fst).Nodup) :
    ofMembers name kept = .ok spec ↔ spec.name = name ∧ GivenBy .kept kept spec.args ∧
      spec.unknown = Table.ofEntries (Value.canonicalMembers
        (kept.filter fun m => !StageArgs.names.contains m.1)) := by
  have hargs : ∀ args, StageArgs.readMembers .kept (Node.ofMembers
      (kept.filter fun m => StageArgs.names.contains m.1)) = .ok args ↔ GivenBy .kept kept args := by
    intro args
    have hmem : ∀ name ∈ StageArgs.names, ∀ v,
        (name, v) ∈ kept.filter (fun m => StageArgs.names.contains m.1) ↔ (name, v) ∈ kept := by
      intro name hname v
      rw [List.mem_filter, and_iff_left (List.contains_iff_mem.mpr hname)]
    rw [StageArgs.readMembers_eq_ok_iff (hdistinct.sublist (List.filter_sublist.map Prod.fst))]
    exact ⟨GivenBy.congr fun name hname v => (hmem name hname v).symm, GivenBy.congr hmem⟩
  have hread : ofMembers name kept =
      (StageArgs.readMembers .kept (Node.ofMembers
        (kept.filter fun m => StageArgs.names.contains m.1))).map fun args =>
        { name, args
          unknown := Table.ofEntries (Value.canonicalMembers
            (kept.filter fun m => !StageArgs.names.contains m.1)) } := by
    show (StageArgs.readMembers .kept (Node.ofMembers
      (kept.filter fun m => StageArgs.names.contains m.1))).bind _ = _
    cases StageArgs.readMembers .kept (Node.ofMembers
      (kept.filter fun m => StageArgs.names.contains m.1)) <;> rfl
  rw [hread]
  obtain ⟨specName, args, unknown⟩ := spec
  simp only [← hargs]
  cases StageArgs.readMembers .kept (Node.ofMembers
    (kept.filter fun m => StageArgs.names.contains m.1)) with
  | error fault => simp [Except.map]
  | ok found => simp [Except.map, eq_comm]

/-! ## Stages -/

variable {members : List (String × Value)} {spec : StageSpec}

/-- The name is no argument: the members give the same arguments without it. -/
theorem givenBy_append_iff {before after : List (String × Value)} {v : Value} {args : StageArgs} :
    GivenBy .kept (before ++ ("name", v) :: after) args ↔ GivenBy .kept (before ++ after) args := by
  have hmem : ∀ key ∈ StageArgs.names, ∀ w,
      (key, w) ∈ before ++ ("name", v) :: after ↔ (key, w) ∈ before ++ after := by
    intro key hkey w
    have hne : (key, w) ≠ ("name", v) := fun heq =>
      ne_name_of_mem_names hkey (congrArg Prod.fst heq)
    rw [List.mem_append, List.mem_append, List.mem_cons, or_iff_right hne]
  exact ⟨GivenBy.congr fun key hkey w => (hmem key hkey w).symm, GivenBy.congr hmem⟩

/-- An object is read as the stage that its members stand for. -/
theorem read_eq_ok_iff (hobject : IsObject members) :
    read (Node.ofValue (.object members)) = .ok spec ↔ Reads members spec := by
  by_cases hname : "name" ∈ members.map Prod.fst
  · obtain ⟨⟨key, v⟩, hv, rfl⟩ := List.mem_map.mp hname
    obtain ⟨before, after, rfl⟩ := List.append_of_mem hv
    obtain ⟨hbefore, hafter, hdistinct⟩ := Json.nodup_names_split hobject.distinct
    rw [read_of_append hobject]
    constructor
    · intro h
      cases hstring : Json.readString (Node.ofValue v) with
      | error fault =>
        rw [hstring] at h
        cases h
      | ok name =>
        rw [hstring] at h
        obtain rfl := Json.readString_eq_ok_iff.mp hstring
        obtain ⟨rfl, hgiven, hunknown⟩ := (ofMembers_eq_ok_iff hdistinct).mp h
        exact ⟨hv, givenBy_append_iff.mpr hgiven, by rw [others_append hbefore hafter, hunknown]⟩
    · rintro ⟨hspec, hgiven, hunknown⟩
      obtain rfl := Json.value_eq_of_nodup hobject.distinct hv hspec
      rw [others_append hbefore hafter] at hunknown
      exact (ofMembers_eq_ok_iff hdistinct).mpr ⟨rfl, givenBy_append_iff.mp hgiven, hunknown⟩
  · rw [read_of_not_mem hname hobject.depth_le]
    refine iff_of_false nofun ?_
    intro h
    exact hname (List.mem_map.mpr ⟨_, h.name, rfl⟩)

/-- Members stand for a stage if and only if they give a name and all arguments among them have values
that they may have. -/
theorem exists_reads_iff (hobject : IsObject members) :
    (∃ spec, Reads members spec) ↔ IsValid .kept members := by
  constructor
  · rintro ⟨spec, h⟩
    exact ⟨⟨spec.name, h.name⟩, h.args.isArgument hobject.distinct⟩
  · rintro ⟨⟨name, hname⟩, harguments⟩
    obtain ⟨args, hargs⟩ := (StageArgs.exists_givenBy_iff hobject.distinct).mpr harguments
    exact ⟨⟨name, args, _⟩, hname, hargs, rfl⟩

/-! ## What is left over -/

theorem Reads.mem_names_unknown_iff (h : Reads members spec) {name : String} :
    name ∈ spec.unknown.names ↔ name ∈ members.map Prod.fst ∧ IsOther name := by
  rw [h.unknown, Table.mem_names_ofEntries, Value.canonicalMembers_eq_map, List.map_map, List.mem_map,
    List.mem_map]
  constructor
  · rintro ⟨m, hm, rfl⟩
    rw [others, List.mem_filter, decide_eq_true_iff] at hm
    exact ⟨⟨m, hm.1, rfl⟩, hm.2⟩
  · rintro ⟨⟨m, hm, rfl⟩, hother⟩
    exact ⟨m, List.mem_filter.mpr ⟨hm, decide_eq_true hother⟩, rfl⟩

theorem Reads.ascending_unknown (h : Reads members spec) : Table.Ascending spec.unknown := by
  rw [h.unknown]
  exact Table.ascending_ofEntries _

theorem Reads.unknown_eq_nil_iff (h : Reads members spec) :
    spec.unknown = [] ↔ ∀ m ∈ members, ¬ IsOther m.1 := by
  have hnames : spec.unknown = [] ↔ ∀ name, name ∉ spec.unknown.names := by
    rw [← List.eq_nil_iff_forall_not_mem, Table.names, List.map_eq_nil_iff]
  rw [hnames]
  simp only [h.mem_names_unknown_iff, List.mem_map, not_and]
  constructor
  · intro hall m hm
    exact hall m.1 ⟨m, hm, rfl⟩
  · rintro hall _ ⟨m, hm, rfl⟩
    exact hall m hm

/-- The stage that some members stand for if each of them is the name or an argument. -/
structure ReadsAll (members : List (String × Value)) (spec : StageSpec) : Prop where
  name : ("name", .string spec.name) ∈ members
  args : GivenBy .kept members spec.args
  unknown : spec.unknown = []
  known : ∀ m ∈ members, ¬ IsOther m.1

theorem readsAll_iff : ReadsAll members spec ↔ Reads members spec ∧ spec.unknown = [] := by
  constructor
  · intro h
    have hothers : others members = [] := by
      rw [others, List.filter_eq_nil_iff]
      intro m hm
      rw [decide_eq_true_iff]
      exact h.known m hm
    refine ⟨⟨h.name, h.args, ?_⟩, h.unknown⟩
    rw [hothers, h.unknown]
    rfl
  · rintro ⟨h, hunknown⟩
    exact ⟨h.name, h.args, hunknown, h.unknown_eq_nil_iff.mp hunknown⟩

theorem exists_readsAll_iff (hobject : IsObject members) :
    (∃ spec, ReadsAll members spec) ↔ IsValid .kept members ∧ ∀ m ∈ members, ¬ IsOther m.1 := by
  rw [← exists_reads_iff hobject]
  constructor
  · rintro ⟨spec, h⟩
    exact ⟨⟨spec, (readsAll_iff.mp h).1⟩, h.known⟩
  · rintro ⟨⟨spec, h⟩, hknown⟩
    exact ⟨spec, readsAll_iff.mpr ⟨h, h.unknown_eq_nil_iff.mpr hknown⟩⟩

theorem ReadsAll.perm {members' : List (String × Value)} (hperm : members.Perm members')
    (h : ReadsAll members spec) : ReadsAll members' spec where
  name := hperm.mem_iff.mp h.name
  args := h.args.congr fun _ _ _ => hperm.mem_iff.symm
  unknown := h.unknown
  known := fun m hm => h.known m (hperm.mem_iff.mpr hm)

theorem IsObject.perm {members' : List (String × Value)} (hperm : members.Perm members')
    (h : IsObject members) : IsObject members' where
  distinct := (hperm.map Prod.fst).nodup_iff.mp h.distinct
  depth_le := fun m hm => h.depth_le m (hperm.mem_iff.mpr hm)

/-! ## The arguments by themselves -/

def withoutName (members : List (String × Value)) : List (String × Value) :=
  members.filter fun m => decide (m.1 ≠ "name")

theorem mem_withoutName_iff {m : String × Value} : m ∈ withoutName members ↔ m ∈ members ∧ m.1 ≠ "name" := by
  rw [withoutName, List.mem_filter, decide_eq_true_iff]

theorem IsObject.distinct_withoutName (hobject : IsObject members) :
    ((withoutName members).map Prod.fst).Nodup :=
  hobject.distinct.sublist (List.filter_sublist.map Prod.fst)

/-- The members of a stage but its name give its arguments, wherever they come from. Only a notice in
front of an empty object is no notice there. -/
theorem givenBy_withoutName_iff (hobject : IsObject members)
    {source : Json.Source} {args args' : StageArgs} (h : GivenBy .kept members args)
    (hsource : source ≠ .kept) :
    GivenBy source (withoutName members) args' ↔ args' = args ∧ ¬ StageArgs.HasEmptyNotice members := by
  have hmem : ∀ name ∈ StageArgs.names, ∀ v, (name, v) ∈ withoutName members ↔ (name, v) ∈ members := by
    intro name hname v
    rw [mem_withoutName_iff, and_iff_left (ne_name_of_mem_names hname)]
  have hempty : StageArgs.HasEmptyNotice (withoutName members) ↔ StageArgs.HasEmptyNotice members :=
    exists_congr fun notice => hmem "placeholder" (by decide) _
  rw [(h.congr hmem).givenBy_iff hobject.distinct_withoutName hsource, hempty]

theorem ReadsAll.ofText_withoutName_iff (hobject : IsObject members) (h : ReadsAll members spec)
    {text : String} (htext : Json.Document.ofText text = ⟨Node.ofValue (.object (withoutName members)), true⟩)
    {args : StageArgs} :
    StageArgs.ofText text = .ok args ↔ args = spec.args ∧ ¬ StageArgs.HasEmptyNotice members := by
  rw [StageArgs.ofText_eq_ok_iff hobject.distinct_withoutName htext]
  exact givenBy_withoutName_iff hobject h.args (by decide)

theorem ReadsAll.ofValue_withoutName_iff (hobject : IsObject members) (h : ReadsAll members spec)
    {args : StageArgs} :
    StageArgs.ofValue (.object (withoutName members)) = .ok args ↔
      args = spec.args ∧ ¬ StageArgs.HasEmptyNotice members := by
  have hcanonical : ∀ m ∈ withoutName members, m.2.canonical = m.2 := by
    intro m hm
    obtain ⟨hm, hname⟩ := mem_withoutName_iff.mp hm
    have harg : m.1 ∈ StageArgs.names := by
      by_contra hother
      exact h.known m hm ⟨hname, hother⟩
    exact (h.args.isArgument hobject.distinct m hm harg).canonical_eq
  rw [StageArgs.ofValue_eq_ok_iff hobject.distinct_withoutName hcanonical]
  exact givenBy_withoutName_iff hobject h.args (by decide)

end Compaction.StageSpec
