import Compaction.Proofs.Json.Record
import Compaction.Registry.StageArgs

/-!
# Which arguments an object gives

* `StageArgs.IsArgument` : a value that the argument with a name may have;
* `StageArgs.GivenBy` : the arguments that the members of an object give, in whatever order they come;
* `StageArgs.readMembers_eq_ok_iff` : an object with distinct names is read as just these arguments;
* `StageArgs.exists_givenBy_iff` : and that succeeds if and only if every argument has a value that it
  may have;
* `StageArgs.givenBy_members` : the members that are written for arguments give these arguments.
-/

namespace Compaction

open Json (Fault Given Node Reader Source Spells Value)

/-! ## Notices -/

theorem Notice.label_inj {a b : Notice} (h : a.label = b.label) : a = b := by
  revert h
  cases a <;> cases b <;> decide

theorem Notice.mem_all (notice : Notice) : notice ∈ Notice.all := by
  cases notice <;> decide

theorem Notice.read_eq_ok_iff {source : Source} {notice : Notice} {v : Value} :
    Notice.read source (Node.ofValue v) = .ok notice ↔ Spells source notice.label v :=
  Json.readVariant_eq_ok_iff Notice.mem_all fun _ _ h => Notice.label_inj h

theorem Notice.read_null (source : Source) (notice : Notice) : Notice.read source .null ≠ .ok notice := by
  cases source <;> simp [Notice.read, Json.readVariant]

namespace StageArgs

/-! ## What members give -/

/-- A value that the argument with a name may have: null, or a value of its type. -/
def IsArgument (source : Source) (name : String) (v : Value) : Prop :=
  v = .null ∨
  (name ∈ ["n", "max_age", "long_output_char_thld"] ∧ ∃ n, v = .ofUInt64 n) ∨
  (name = "keep_last" ∧ ∃ b, v = .bool b) ∨
  (name = "placeholder" ∧ ∃ notice : Notice, Spells source notice.label v)

/-- The arguments that the members of an object give. Null is the same as not given. -/
structure GivenBy (source : Source) (members : List (String × Value)) (args : StageArgs) : Prop where
  n : Given members "n" (fun n v => v = .ofUInt64 n) args.n
  maxAge : Given members "max_age" (fun n v => v = .ofUInt64 n) args.maxAge
  threshold : Given members "long_output_char_thld" (fun n v => v = .ofUInt64 n) args.threshold
  keepLast : Given members "keep_last" (fun b v => v = .bool b) args.keepLast
  notice : Given members "placeholder" (fun notice v => Spells source notice.label v) args.notice

/-! ## The fields -/

namespace Fields

variable {source : Source}

theorem mem_names_of_step {fields : Fields} {name : String} {r : Reader Fields}
    (hstep : step? source fields name = some r) : name ∈ names := by
  unfold step? at hstep
  split_ifs at hstep <;> simp_all [names]

/-- A member only changes the argument under its name. -/
theorem eq_of_step {fields fields' : Fields} {name : String} {r : Reader Fields} {node : Node}
    (hstep : step? source fields name = some r) (hread : r node = .ok fields') :
    (name ≠ "n" → fields'.n = fields.n) ∧ (name ≠ "max_age" → fields'.maxAge = fields.maxAge) ∧
    (name ≠ "long_output_char_thld" → fields'.threshold = fields.threshold) ∧
    (name ≠ "keep_last" → fields'.keepLast = fields.keepLast) ∧
    (name ≠ "placeholder" → fields'.notice = fields.notice) := by
  unfold step? at hstep
  split_ifs at hstep with h₁ h₂ h₃ h₄ h₅
  all_goals
    obtain rfl := Option.some.inj hstep
    obtain ⟨-, a, -, rfl⟩ := Json.readField_eq_ok_iff.mp hread
  · exact ⟨absurd h₁, fun _ => rfl, fun _ => rfl, fun _ => rfl, fun _ => rfl⟩
  · exact ⟨fun _ => rfl, absurd h₂, fun _ => rfl, fun _ => rfl, fun _ => rfl⟩
  · exact ⟨fun _ => rfl, fun _ => rfl, absurd h₃, fun _ => rfl, fun _ => rfl⟩
  · exact ⟨fun _ => rfl, fun _ => rfl, fun _ => rfl, absurd h₄, fun _ => rfl⟩
  · exact ⟨fun _ => rfl, fun _ => rfl, fun _ => rfl, fun _ => rfl, absurd h₅⟩

def nField (source : Source) : Json.Field (step? source) (Option UInt64) :=
  .ofName "n" Fields.n (Json.readOptional Json.readCount) (fun fields n => { fields with n := some n })
    (fun _ => rfl) (fun _ _ => rfl) fun hname hstep hread => (eq_of_step hstep hread).1 hname

def maxAgeField (source : Source) : Json.Field (step? source) (Option UInt64) :=
  .ofName "max_age" Fields.maxAge (Json.readOptional Json.readCount)
    (fun fields maxAge => { fields with maxAge := some maxAge })
    (fun _ => rfl) (fun _ _ => rfl) fun hname hstep hread => (eq_of_step hstep hread).2.1 hname

def thresholdField (source : Source) : Json.Field (step? source) (Option UInt64) :=
  .ofName "long_output_char_thld" Fields.threshold (Json.readOptional Json.readCount)
    (fun fields threshold => { fields with threshold := some threshold })
    (fun _ => rfl) (fun _ _ => rfl) fun hname hstep hread => (eq_of_step hstep hread).2.2.1 hname

def keepLastField (source : Source) : Json.Field (step? source) (Option Bool) :=
  .ofName "keep_last" Fields.keepLast (Json.readOptional Json.readBool)
    (fun fields keepLast => { fields with keepLast := some keepLast })
    (fun _ => rfl) (fun _ _ => rfl) fun hname hstep hread => (eq_of_step hstep hread).2.2.2.1 hname

def noticeField (source : Source) : Json.Field (step? source) (Option Notice) :=
  .ofName "placeholder" Fields.notice (Json.readOptional (Notice.read source))
    (fun fields notice => { fields with notice := some notice })
    (fun _ => rfl) (fun _ _ => rfl) fun hname hstep hread => (eq_of_step hstep hread).2.2.2.2 hname

theorem givenBy_of_readMembers {members : List (String × Value)} {fields : Fields}
    (h : Json.readMembers (step? source) {} (Node.ofMembers members) = .ok fields) :
    GivenBy source members fields.toArgs where
  n := (nField source).given_of_readMembers rfl rfl (fun _ _ => Json.readCount_eq_ok_iff) nofun rfl h
  maxAge :=
    (maxAgeField source).given_of_readMembers rfl rfl (fun _ _ => Json.readCount_eq_ok_iff) nofun rfl h
  threshold :=
    (thresholdField source).given_of_readMembers rfl rfl (fun _ _ => Json.readCount_eq_ok_iff) nofun rfl h
  keepLast :=
    (keepLastField source).given_of_readMembers rfl rfl (fun _ _ => Json.readBool_eq_ok_iff) nofun rfl h
  notice :=
    (noticeField source).given_of_readMembers rfl rfl (fun _ _ => Notice.read_eq_ok_iff)
      (Notice.read_null source) rfl h

/-- The first member under a name is not refused if it has a value that it may have. -/
theorem not_refused {α : Type} (F : Json.Field (step? source) (Option α)) {reader : Reader α}
    {before after : List (String × Value)} {name : String} {v : Value} {mid : Fields} {r : Reader Fields}
    {fault : Fault} (hreader : F.reader = Json.readOptional reader) (hnames : F.names = [name])
    (hget : F.get {} = none) (hdistinct : ((before ++ (name, v) :: after).map Prod.fst).Nodup)
    (hbefore : Json.readMembers (step? source) {} (Node.ofMembers before) = .ok mid)
    (hstep : step? source mid name = some r) (hv : v = .null ∨ ∃ a, reader (Node.ofValue v) = .ok a) :
    r (Node.ofValue v) ≠ .error fault := by
  obtain ⟨a, ha⟩ := Json.exists_readOptional hv
  refine F.ne_error_of_first hget hbefore ?_ (hnames ▸ List.mem_singleton_self name) hstep (hreader ▸ ha) fault
  rw [hnames, List.forall_mem_singleton]
  intro node hmem
  obtain ⟨w, hw, -⟩ := Json.mem_ofMembers.mp hmem
  exact (Json.nodup_names_split hdistinct).1 (List.mem_map_of_mem hw)

theorem exists_readMembers {members : List (String × Value)} (hdistinct : (members.map Prod.fst).Nodup)
    (hvalues : ∀ m ∈ members, m.1 ∈ names → IsArgument source m.1 m.2) :
    ∃ fields, Json.readMembers (step? source) {} (Node.ofMembers members) = .ok fields := by
  cases h : Json.readMembers (step? source) {} (Node.ofMembers members) with
  | ok fields => exact ⟨fields, rfl⟩
  | error fault =>
    exfalso
    -- One of the members has been refused; it is an argument, and it is the first under its name.
    obtain ⟨before, name, v, after, mid, r, rfl, hbefore, hstep, hread⟩ :=
      Json.exists_of_readMembers_ofMembers_error h
    have hname := mem_names_of_step hstep
    have hv := hvalues (name, v) (List.mem_append_right before List.mem_cons_self) hname
    simp only [names, List.mem_cons, List.not_mem_nil, or_false] at hname
    rcases hname with rfl | rfl | rfl | rfl | rfl
    · refine not_refused (nField source) rfl rfl rfl hdistinct hbefore hstep ?_ hread
      simpa [IsArgument, Json.readCount_eq_ok_iff] using hv
    · refine not_refused (maxAgeField source) rfl rfl rfl hdistinct hbefore hstep ?_ hread
      simpa [IsArgument, Json.readCount_eq_ok_iff] using hv
    · refine not_refused (thresholdField source) rfl rfl rfl hdistinct hbefore hstep ?_ hread
      simpa [IsArgument, Json.readCount_eq_ok_iff] using hv
    · refine not_refused (keepLastField source) rfl rfl rfl hdistinct hbefore hstep ?_ hread
      simpa [IsArgument, Json.readBool_eq_ok_iff] using hv
    · refine not_refused (noticeField source) rfl rfl rfl hdistinct hbefore hstep ?_ hread
      simpa [IsArgument, Notice.read_eq_ok_iff] using hv

end Fields

/-! ## The arguments -/

variable {source : Source} {members members' : List (String × Value)} {args args' : StageArgs}

/-- Only the members under the names of arguments matter, and not in which order they come. -/
theorem GivenBy.congr (hmem : ∀ name ∈ names, ∀ v, (name, v) ∈ members' ↔ (name, v) ∈ members)
    (h : GivenBy source members args) : GivenBy source members' args where
  n := h.n.congr (hmem "n" (by decide))
  maxAge := h.maxAge.congr (hmem "max_age" (by decide))
  threshold := h.threshold.congr (hmem "long_output_char_thld" (by decide))
  keepLast := h.keepLast.congr (hmem "keep_last" (by decide))
  notice := h.notice.congr (hmem "placeholder" (by decide))

theorem GivenBy.unique (hdistinct : (members.map Prod.fst).Nodup) (h : GivenBy source members args)
    (h' : GivenBy source members args') : args = args' := by
  have hcount : ∀ (a b : UInt64) (v : Value), v = .ofUInt64 a → v = .ofUInt64 b → a = b := by
    rintro a b v rfl hb
    exact Json.Number.natural.inj (Value.number.inj hb)
  have hn := h.n.unique hdistinct hcount nofun h'.n
  have hmaxAge := h.maxAge.unique hdistinct hcount nofun h'.maxAge
  have hthreshold := h.threshold.unique hdistinct hcount nofun h'.threshold
  have hkeepLast := h.keepLast.unique hdistinct (fun _ _ _ ha hb => Value.bool.inj (ha.symm.trans hb))
    nofun h'.keepLast
  have hnotice := h.notice.unique hdistinct
    (fun _ _ _ ha hb => Notice.label_inj (ha.label_eq hb)) nofun h'.notice
  cases args
  cases args'
  simp_all

theorem GivenBy.isArgument (hdistinct : (members.map Prod.fst).Nodup) (h : GivenBy source members args) :
    ∀ m ∈ members, m.1 ∈ names → IsArgument source m.1 m.2 := by
  rintro ⟨name, v⟩ hm hname
  simp only [names, List.mem_cons, List.not_mem_nil, or_false] at hname
  rcases hname with rfl | rfl | rfl | rfl | rfl
  · simpa [IsArgument] using h.n.spelled hdistinct hm
  · simpa [IsArgument] using h.maxAge.spelled hdistinct hm
  · simpa [IsArgument] using h.threshold.spelled hdistinct hm
  · simpa [IsArgument] using h.keepLast.spelled hdistinct hm
  · simpa [IsArgument] using h.notice.spelled hdistinct hm

/-- An object with distinct names is read as just the arguments that it gives. -/
theorem readMembers_eq_ok_iff (hdistinct : (members.map Prod.fst).Nodup) :
    readMembers source (Node.ofMembers members) = .ok args ↔ GivenBy source members args := by
  constructor
  · intro h
    cases hfields : Json.readMembers (Fields.step? source) {} (Node.ofMembers members) with
    | error fault =>
      rw [readMembers, hfields] at h
      cases h
    | ok fields =>
      rw [readMembers, hfields] at h
      obtain rfl := Except.ok.inj h
      exact Fields.givenBy_of_readMembers hfields
  · intro h
    obtain ⟨fields, hfields⟩ := Fields.exists_readMembers hdistinct (h.isArgument hdistinct)
    rw [readMembers, hfields, h.unique hdistinct (Fields.givenBy_of_readMembers hfields)]
    rfl

/-- An object with distinct names gives arguments if and only if all of them have values that they may
have. -/
theorem exists_givenBy_iff (hdistinct : (members.map Prod.fst).Nodup) :
    (∃ args, GivenBy source members args) ↔ ∀ m ∈ members, m.1 ∈ names → IsArgument source m.1 m.2 := by
  constructor
  · rintro ⟨args, h⟩
    exact h.isArgument hdistinct
  · intro hvalues
    obtain ⟨fields, hfields⟩ := Fields.exists_readMembers hdistinct hvalues
    exact ⟨fields.toArgs, Fields.givenBy_of_readMembers hfields⟩

/-! ## Arguments by themselves -/

/-- The notice is written as the only member of an object, and behind its name stands an empty object.
That is a notice among the members of a stage only. -/
def HasEmptyNotice (members : List (String × Value)) : Prop :=
  ∃ notice : Notice, ("placeholder", .object [(notice.label, .object [])]) ∈ members

/-- What the members of a stage give is what they give anywhere else, unless the notice stands in front
of an empty object; then they give nothing. -/
theorem GivenBy.givenBy_iff (hdistinct : (members.map Prod.fst).Nodup) (h : GivenBy .kept members args)
    (hsource : source ≠ .kept) :
    GivenBy source members args' ↔ args' = args ∧ ¬ HasEmptyNotice members := by
  -- A spelling anywhere else is none with an empty object, so it is one among the members of a stage.
  have hkept : ∀ notice : Notice, ∀ v, Spells source notice.label v → Spells .kept notice.label v := by
    intro notice v hspells
    refine (Json.spells_kept_iff ?_).mpr hspells
    rintro rfl
    exact hsource (hspells.eq_kept ⟨_, rfl⟩)
  constructor
  · intro h'
    have hsame : GivenBy .kept members args' :=
      { h' with notice := h'.notice.imp fun notice v _ hspells => hkept notice v hspells }
    refine ⟨hsame.unique hdistinct h, ?_⟩
    rintro ⟨notice, hnotice⟩
    obtain hnull | ⟨_, hspells⟩ := h'.notice.spelled hdistinct hnotice
    · cases hnull
    · exact hsource (hspells.eq_kept ⟨_, rfl⟩)
  · rintro ⟨rfl, hempty⟩
    refine { h with notice := h.notice.imp ?_ }
    intro notice v hv hspells
    refine (Json.spells_kept_iff ?_).mp hspells
    rintro rfl
    exact hempty ⟨notice, hv⟩

theorem ofText_eq_ok_iff {text : String} (hdistinct : (members.map Prod.fst).Nodup)
    (htext : Json.Document.ofText text = ⟨Node.ofValue (.object members), true⟩) :
    ofText text = .ok args ↔ GivenBy .text members args := by
  rw [← readMembers_eq_ok_iff hdistinct, ofText, htext]
  show (readMembers .text (Node.ofMembers members)).bind _ = _ ↔ _
  cases readMembers .text (Node.ofMembers members) with
  | error fault => exact Iff.rfl
  | ok found => exact Iff.rfl

/-- An argument is the same with the members of all objects in it sorted by name: none of them has more
than one. -/
theorem IsArgument.canonical_eq {name : String} {v : Value} (h : IsArgument source name v) :
    v.canonical = v := by
  rcases h with rfl | ⟨-, n, rfl⟩ | ⟨-, b, rfl⟩ | ⟨-, notice, hspells⟩
  · rfl
  · rfl
  · rfl
  · cases hspells <;> rfl

theorem ofValue_eq_ok_iff (hdistinct : (members.map Prod.fst).Nodup)
    (hcanonical : ∀ m ∈ members, m.2.canonical = m.2) :
    ofValue (.object members) = .ok args ↔ GivenBy .tree members args := by
  have hmembers : Value.canonicalMembers members = members := by
    have hsame : ∀ m ∈ members, (m.1, m.2.canonical) = id m := by
      intro m hm
      rw [hcanonical m hm, id]
    rw [Value.canonicalMembers_eq_map, List.map_congr_left hsame, List.map_id]
  have hperm : (Table.ofEntries members).Perm members := Table.perm_ofEntries hdistinct
  have hread : ofValue (.object members) =
      readMembers .tree (Node.ofMembers (Table.ofEntries (Value.canonicalMembers members))) := rfl
  rw [hread, hmembers, readMembers_eq_ok_iff ((hperm.map Prod.fst).nodup_iff.mpr hdistinct)]
  exact ⟨GivenBy.congr fun _ _ _ => hperm.mem_iff.symm, GivenBy.congr fun _ _ _ => hperm.mem_iff⟩

/-! ## Written arguments -/

theorem mem_member_iff {α : Type} {name : String} {toValue : α → Value} {a : Option α}
    {m : String × Value} : m ∈ member name toValue a ↔ ∃ b, a = some b ∧ m = (name, toValue b) := by
  cases a <;> simp [member]

theorem mem_members_iff {m : String × Value} :
    m ∈ args.members ↔
      (∃ n, args.n = some n ∧ m = ("n", .ofUInt64 n)) ∨
      (∃ n, args.maxAge = some n ∧ m = ("max_age", .ofUInt64 n)) ∨
      (∃ n, args.threshold = some n ∧ m = ("long_output_char_thld", .ofUInt64 n)) ∨
      (∃ b, args.keepLast = some b ∧ m = ("keep_last", .bool b)) ∨
      (∃ notice, args.notice = some notice ∧ m = ("placeholder", .string notice.label)) := by
  simp only [StageArgs.members, List.mem_append, mem_member_iff, or_assoc]

/-- The members that are written for arguments give these arguments. -/
theorem givenBy_members (source : Source) (args : StageArgs) : GivenBy source args.members args where
  n := by cases h : args.n <;> simp [Given, mem_members_iff, h]
  maxAge := by cases h : args.maxAge <;> simp [Given, mem_members_iff, h]
  threshold := by cases h : args.threshold <;> simp [Given, mem_members_iff, h]
  keepLast := by cases h : args.keepLast <;> simp [Given, mem_members_iff, h]
  notice := by
    cases h : args.notice with
    | none => simp [Given, mem_members_iff, h]
    | some notice => exact ⟨_, by simp [mem_members_iff, h], .name⟩

theorem sublist_names_member {α : Type} (name : String) (toValue : α → Value) (a : Option α) :
    ((member name toValue a).map Prod.fst).Sublist [name] := by
  cases a with
  | none => exact List.nil_sublist [name]
  | some a => exact List.Sublist.refl [name]

theorem sublist_names_members (args : StageArgs) : (args.members.map Prod.fst).Sublist names := by
  unfold StageArgs.members
  simp only [List.map_append]
  exact ((((sublist_names_member _ _ args.n).append (sublist_names_member _ _ args.maxAge)).append
    (sublist_names_member _ _ args.threshold)).append (sublist_names_member _ _ args.keepLast)).append
    (sublist_names_member _ _ args.notice)

end StageArgs

end Compaction
