import Compaction.Proofs.Json.Accepted
import Compaction.Proofs.Json.Node
import Mathlib.Data.List.Nodup

/-!
# The fields of a record

A record takes its members one by one, in whatever order they come.

* `readMembers_append`, `exists_of_readMembers_cons` : members that are taken one after another;
* `Field` : a part of what has been read, which is given under some names and left alone by all others;
* `Field.eq_of_mem`, `Field.get_eq_some_iff` : when all members have been taken, at most one of them has given a field,
  and the field has its value;
* `exists_of_readMembers_error`, `Field.ne_error_of_first` : a record is refused for one of its members, which is not
  the first to give a field if its value can be read;
* `Given` : what an object gives under a name that may be left out or null, with
  `Field.given_of_readMembers`.
-/

namespace Compaction.Json

variable {σ : Type} {step? : σ → String → Option (Reader σ)}

/-! ## Members one after another -/

theorem readMembers_append (fields : σ) (before after : List (Option String × Node)) :
    readMembers step? fields (before ++ after) =
      (readMembers step? fields before).bind fun fields => readMembers step? fields after := by
  induction before generalizing fields with
  | nil => rfl
  | cons m before ih =>
    obtain ⟨_ | name, node⟩ := m
    · rfl
    · rw [List.cons_append, readMembers, readMembers]
      cases step? fields name with
      | none =>
        cases node.isWhole with
        | false => rfl
        | true => exact ih fields
      | some reader =>
        cases hread : reader node with
        | error fault =>
          simp only [hread]
          rfl
        | ok mid =>
          simp only [hread]
          exact ih mid

/-- A record that has been read has taken its first member, or passed it over. -/
theorem exists_of_readMembers_cons {fields fields' : σ} {m : Option String × Node}
    {members : List (Option String × Node)} (h : readMembers step? fields (m :: members) = .ok fields') :
    ∃ name mid, m.1 = some name ∧ readMembers step? mid members = .ok fields' ∧
      (step? fields name = none ∧ mid = fields ∨
        ∃ reader, step? fields name = some reader ∧ reader m.2 = .ok mid) := by
  obtain ⟨_ | name, node⟩ := m
  · cases h
  · rw [readMembers] at h
    split at h
    · rename_i reader hstep
      split at h
      · rename_i mid hread
        exact ⟨name, mid, rfl, h, Or.inr ⟨reader, hstep, hread⟩⟩
      · cases h
    · rename_i hstep
      split at h
      · exact ⟨name, fields, rfl, h, Or.inl ⟨hstep, rfl⟩⟩
      · cases h

/-- A member for which a record is refused: its name or its value cannot be read. -/
def Refuses (step? : σ → String → Option (Reader σ)) (fields : σ) (m : Option String × Node)
    (fault : Fault) : Prop :=
  m.1 = none ∨ m.2.isWhole = false ∨
    ∃ name reader, m.1 = some name ∧ step? fields name = some reader ∧ reader m.2 = .error fault

/-- A record that is refused is refused for one of its members, and takes all members before it. -/
theorem exists_of_readMembers_error {fields : σ} {members : List (Option String × Node)} {fault : Fault}
    (h : readMembers step? fields members = .error fault) :
    ∃ before m after mid, members = before ++ m :: after ∧
      readMembers step? fields before = .ok mid ∧ Refuses step? mid m fault := by
  induction members generalizing fields with
  | nil => cases h
  | cons m members ih =>
    -- The record goes on behind the first member, or is refused for that member.
    have hlater : ∀ mid, readMembers step? fields [m] = .ok mid →
        readMembers step? mid members = .error fault → ∃ before m' after last,
          m :: members = before ++ m' :: after ∧ readMembers step? fields before = .ok last ∧
            Refuses step? last m' fault := by
      intro mid hfirst hmid
      obtain ⟨before, m', after, last, rfl, hbefore, hm⟩ := ih hmid
      refine ⟨m :: before, m', after, last, rfl, ?_, hm⟩
      rw [← List.singleton_append, readMembers_append, hfirst]
      exact hbefore
    have hfirst : Refuses step? fields m fault → ∃ before m' after last,
        m :: members = before ++ m' :: after ∧ readMembers step? fields before = .ok last ∧
          Refuses step? last m' fault := fun hm => ⟨[], m, members, fields, rfl, rfl, hm⟩
    obtain ⟨_ | name, node⟩ := m
    · exact hfirst (Or.inl rfl)
    · rw [readMembers] at h
      split at h
      · rename_i reader hstep
        split at h
        · rename_i mid hread
          exact hlater mid (by simp only [readMembers, hstep, hread]) h
        · rename_i fault' hread
          obtain rfl := Except.error.inj h
          exact hfirst (Or.inr (Or.inr ⟨name, reader, rfl, hstep, hread⟩))
      · rename_i hstep
        split at h
        · rename_i hwhole
          exact hlater fields (by simp only [readMembers, hstep, hwhole, if_true]) h
        · rename_i hwhole
          exact hfirst (Or.inr (Or.inl (Bool.eq_false_iff.mpr hwhole)))

/-! ## Fields -/

theorem readField_eq_ok_iff {α : Type} {name : String} {old : Option α} {reader : Reader α}
    {store : α → σ} {node : Node} {fields : σ} :
    readField name old reader store node = .ok fields ↔
      old = none ∧ ∃ a, reader node = .ok a ∧ store a = fields := by
  cases old with
  | some a => simp [readField]
  | none =>
    show (reader node).map store = .ok fields ↔ _
    cases reader node <;> simp [Except.map]

/-- A part of what has been read of a record. -/
structure Field (step? : σ → String → Option (Reader σ)) (α : Type) where
  names : List String
  get : σ → Option α
  reader : Reader α
  /-- Under its names the field is read, unless it has been given before. -/
  exists_step : ∀ fields, ∀ name ∈ names, ∃ label store,
    step? fields name = some (readField label (get fields) reader store) ∧ ∀ a, get (store a) = some a
  get_eq : ∀ {fields fields' name r node}, name ∉ names → step? fields name = some r →
    r node = .ok fields' → get fields' = get fields

namespace Field

def ofName {α : Type} (name : String) (get : σ → Option α) (reader : Reader α) (store : σ → α → σ)
    (hstep : ∀ fields, step? fields name = some (readField name (get fields) reader (store fields)))
    (hstore : ∀ fields a, get (store fields a) = some a)
    (hget : ∀ {fields fields' other r node}, other ≠ name → step? fields other = some r →
      r node = .ok fields' → get fields' = get fields) : Field step? α where
  names := [name]
  get := get
  reader := reader
  exists_step fields other hother := by
    obtain rfl := List.mem_singleton.mp hother
    exact ⟨other, store fields, hstep fields, hstore fields⟩
  get_eq hother := hget fun heq => hother (List.mem_singleton.mpr heq)

variable {α : Type} (F : Field step? α) {fields fields' : σ} {members : List (Option String × Node)}
  {name : String} {node : Node}

theorem exists_of_step {r : Reader σ} (hname : name ∈ F.names) (hstep : step? fields name = some r)
    (hread : r node = .ok fields') :
    F.get fields = none ∧ ∃ a, F.reader node = .ok a ∧ F.get fields' = some a := by
  obtain ⟨label, store, hfield, hstore⟩ := F.exists_step fields name hname
  obtain rfl := Option.some.inj (hstep.symm.trans hfield)
  obtain ⟨hget, a, ha, rfl⟩ := readField_eq_ok_iff.mp hread
  exact ⟨hget, a, ha, hstore a⟩

/-- A member gives the field for the first time or leaves it alone. -/
theorem exists_of_cons {m : Option String × Node} (h : readMembers step? fields (m :: members) = .ok fields') :
    ∃ name mid, m.1 = some name ∧ readMembers step? mid members = .ok fields' ∧
      (name ∈ F.names → F.get fields = none ∧ ∃ a, F.reader m.2 = .ok a ∧ F.get mid = some a) ∧
      (name ∉ F.names → F.get mid = F.get fields) := by
  obtain ⟨name, mid, hm, hrest, ⟨hnone, rfl⟩ | ⟨r, hstep, hread⟩⟩ := exists_of_readMembers_cons h
  · refine ⟨name, mid, hm, hrest, fun hname => ?_, fun _ => rfl⟩
    obtain ⟨label, store, hfield, -⟩ := F.exists_step mid name hname
    rw [hnone] at hfield
    cases hfield
  · exact ⟨name, mid, hm, hrest, fun hname => F.exists_of_step hname hstep hread,
      fun hname => F.get_eq hname hstep hread⟩

/-- A field that no member gives is as it was. -/
theorem get_eq_of_not_mem (h : readMembers step? fields members = .ok fields')
    (hmem : ∀ name ∈ F.names, ∀ node, (some name, node) ∉ members) : F.get fields' = F.get fields := by
  induction members generalizing fields with
  | nil =>
    obtain rfl := Except.ok.inj h
    rfl
  | cons m members ih =>
    obtain ⟨name, mid, hm, hrest, -, hother⟩ := F.exists_of_cons h
    have hname : name ∉ F.names := by
      intro hname
      refine hmem name hname m.2 (List.mem_cons.mpr (Or.inl ?_))
      rw [← hm]
    exact (ih hrest fun name hname node hin => hmem name hname node (List.mem_cons_of_mem m hin)).trans (hother hname)

/-- A field that has been given is given by no further member. -/
theorem not_mem_of_get_eq_some {a : α} (hget : F.get fields = some a)
    (h : readMembers step? fields members = .ok fields') : ∀ name ∈ F.names, ∀ node, (some name, node) ∉ members := by
  induction members generalizing fields with
  | nil => exact fun _ _ _ => List.not_mem_nil
  | cons m members ih =>
    obtain ⟨name, mid, hm, hrest, hgiven, hother⟩ := F.exists_of_cons h
    have hname : name ∉ F.names := by
      intro hname
      have hnone := (hgiven hname).1
      rw [hget] at hnone
      cases hnone
    intro name' hname' node hmem
    rcases List.mem_cons.mp hmem with rfl | htail
    · obtain rfl := Option.some.inj hm
      exact hname hname'
    · exact ih ((hother hname).trans hget) hrest name' hname' node htail

/-- A field that a member gives has the value of that member. -/
theorem exists_of_mem (h : readMembers step? fields members = .ok fields') (hname : name ∈ F.names)
    (hmem : (some name, node) ∈ members) : ∃ a, F.reader node = .ok a ∧ F.get fields' = some a := by
  induction members generalizing fields with
  | nil => cases hmem
  | cons m members ih =>
    obtain ⟨name', mid, hm, hrest, hgiven, -⟩ := F.exists_of_cons h
    rcases List.mem_cons.mp hmem with rfl | htail
    · obtain rfl := Option.some.inj hm
      obtain ⟨-, a, ha, hmid⟩ := hgiven hname
      exact ⟨a, ha, (F.get_eq_of_not_mem hrest (F.not_mem_of_get_eq_some hmid hrest)).trans hmid⟩
    · exact ih hrest htail

/-- A field is given by one member at most. -/
theorem eq_of_mem {m m' : Option String × Node} (h : readMembers step? fields members = .ok fields')
    (hm : ∃ name ∈ F.names, m.1 = some name) (hm' : ∃ name ∈ F.names, m'.1 = some name)
    (hmem : m ∈ members) (hmem' : m' ∈ members) : m = m' := by
  obtain ⟨name, hname, hm⟩ := hm
  obtain ⟨name', hname', hm'⟩ := hm'
  obtain ⟨key, node⟩ := m
  obtain ⟨key', node'⟩ := m'
  subst hm hm'
  induction members generalizing fields with
  | nil => cases hmem
  | cons first members ih =>
    obtain ⟨other, mid, hfirst, hrest, hgiven, -⟩ := F.exists_of_cons h
    -- Once the first member has given the field, no other member may.
    have honly : other ∈ F.names → ∀ name ∈ F.names, ∀ node, (some name, node) ∉ members := by
      intro hother
      obtain ⟨-, a, -, hmid⟩ := hgiven hother
      exact F.not_mem_of_get_eq_some hmid hrest
    rcases List.mem_cons.mp hmem with rfl | htail
    · obtain rfl := Option.some.inj hfirst
      rcases List.mem_cons.mp hmem' with heq | htail'
      · exact heq.symm
      · exact absurd htail' (honly hname name' hname' node')
    · rcases List.mem_cons.mp hmem' with rfl | htail'
      · obtain rfl := Option.some.inj hfirst
        exact absurd htail (honly hname' name hname node)
      · exact ih hrest htail htail'

/-- A field that had not been given before has the value of a member under one of its names. -/
theorem get_eq_some_iff {a : α} (hget : F.get fields = none) (h : readMembers step? fields members = .ok fields') :
    F.get fields' = some a ↔ ∃ name ∈ F.names, ∃ node, (some name, node) ∈ members ∧ F.reader node = .ok a := by
  constructor
  · intro ha
    by_cases hgiven : ∃ name ∈ F.names, ∃ node, (some name, node) ∈ members
    · obtain ⟨name, hname, node, hmem⟩ := hgiven
      obtain ⟨b, hb, hget'⟩ := F.exists_of_mem h hname hmem
      obtain rfl := Option.some.inj (hget'.symm.trans ha)
      exact ⟨name, hname, node, hmem, hb⟩
    · have hnone : F.get fields' = F.get fields :=
        F.get_eq_of_not_mem h fun name hname node hmem => hgiven ⟨name, hname, node, hmem⟩
      rw [hnone, hget] at ha
      cases ha
  · rintro ⟨name, hname, node, hmem, ha⟩
    obtain ⟨b, hb, hget'⟩ := F.exists_of_mem h hname hmem
    obtain rfl := Except.ok.inj (ha.symm.trans hb)
    exact hget'

/-- The first member that gives a field is not refused if its value can be read. -/
theorem ne_error_of_first {mid : σ} {r : Reader σ} {a : α} (hget : F.get fields = none)
    (hbefore : readMembers step? fields members = .ok mid)
    (hmem : ∀ name ∈ F.names, ∀ node, (some name, node) ∉ members) (hname : name ∈ F.names)
    (hstep : step? mid name = some r) (hread : F.reader node = .ok a) (fault : Fault) : r node ≠ .error fault := by
  obtain ⟨label, store, hfield, -⟩ := F.exists_step mid name hname
  obtain rfl := Option.some.inj (hstep.symm.trans hfield)
  rw [F.get_eq_of_not_mem hbefore hmem, hget, readField_first label F.reader store hread]
  exact nofun

end Field

/-! ## What an object gives -/

/-- An object that is refused is refused for one of its members, whose value is to blame if its name is
new. -/
theorem exists_of_readMembers_ofMembers_error {fields : σ} {members : List (String × Value)}
    {fault : Fault} (h : readMembers step? fields (Node.ofMembers members) = .error fault) :
    ∃ before name v after mid reader, members = before ++ (name, v) :: after ∧
      readMembers step? fields (Node.ofMembers before) = .ok mid ∧ step? mid name = some reader ∧
      reader (Node.ofValue v) = .error fault := by
  obtain ⟨before, m, after, mid, hsplit, hbefore, hrefuses⟩ := exists_of_readMembers_error h
  rw [Node.ofMembers_eq_map, List.map_eq_append_iff] at hsplit
  obtain ⟨values, rest, rfl, rfl, hrest⟩ := hsplit
  obtain ⟨⟨name, v⟩, later, rfl, rfl, -⟩ := List.map_eq_cons_iff.mp hrest
  rw [← Node.ofMembers_eq_map] at hbefore
  rcases hrefuses with hname | hwhole | ⟨name', reader, hname, hstep, hread⟩
  · cases hname
  · rw [Node.isWhole_ofValue] at hwhole
    cases hwhole
  · obtain rfl := Option.some.inj hname
    exact ⟨values, name, v, later, mid, reader, rfl, hbefore, hstep, hread⟩

theorem mem_ofMembers {members : List (String × Value)} {name : String} {node : Node} :
    (some name, node) ∈ Node.ofMembers members ↔ ∃ v, (name, v) ∈ members ∧ node = Node.ofValue v := by
  rw [Node.ofMembers_eq_map, List.mem_map]
  constructor
  · rintro ⟨⟨name', v⟩, hv, heq⟩
    obtain ⟨hname, rfl⟩ := Prod.mk.inj heq
    obtain rfl := Option.some.inj hname
    exact ⟨v, hv, rfl⟩
  · rintro ⟨v, hv, rfl⟩
    exact ⟨(name, v), hv, rfl⟩

theorem nodup_names_split {β : Type} {before after : List (String × β)} {name : String} {v : β}
    (hdistinct : ((before ++ (name, v) :: after).map Prod.fst).Nodup) :
    name ∉ before.map Prod.fst ∧ name ∉ after.map Prod.fst ∧ ((before ++ after).map Prod.fst).Nodup := by
  rw [List.map_append, List.map_cons, List.nodup_middle, List.nodup_cons, List.mem_append, not_or,
    ← List.map_append] at hdistinct
  exact ⟨hdistinct.1.1, hdistinct.1.2, hdistinct.2⟩

/-- Under a name, an object gives a value that is spelled in some way; it gives none if the name is left
out or has null. -/
def Given {α : Type} (members : List (String × Value)) (name : String) (spells : α → Value → Prop) :
    Option α → Prop
  | some a => ∃ v, (name, v) ∈ members ∧ spells a v
  | none => ∀ v, (name, v) ∈ members → v = .null

theorem value_eq_of_nodup {β : Type} {members : List (String × β)} (hdistinct : (members.map Prod.fst).Nodup)
    {name : String} {v w : β} (hv : (name, v) ∈ members) (hw : (name, w) ∈ members) : v = w :=
  congrArg Prod.snd (List.inj_on_of_nodup_map hdistinct hv hw rfl)

namespace Given

variable {α : Type} {members members' : List (String × Value)} {name : String}
  {spells spells' : α → Value → Prop} {a b : Option α}

theorem congr (hmem : ∀ v, (name, v) ∈ members' ↔ (name, v) ∈ members)
    (h : Given members name spells a) : Given members' name spells a := by
  cases a with
  | some a =>
    obtain ⟨v, hv, ha⟩ := h
    exact ⟨v, (hmem v).mpr hv, ha⟩
  | none => exact fun v hv => h v ((hmem v).mp hv)

theorem imp (h : Given members name spells a)
    (himp : ∀ a v, (name, v) ∈ members → spells a v → spells' a v) : Given members name spells' a := by
  cases a with
  | some a =>
    obtain ⟨v, hv, ha⟩ := h
    exact ⟨v, hv, himp a v hv ha⟩
  | none => exact h

/-- Under distinct names, an object gives one value at most, if no spelling stands for two values or is
null. -/
theorem unique (hdistinct : (members.map Prod.fst).Nodup)
    (hspells : ∀ a b v, spells a v → spells b v → a = b) (hnull : ∀ a, ¬ spells a .null)
    (ha : Given members name spells a) (hb : Given members name spells b) : a = b := by
  cases a with
  | none =>
    cases b with
    | none => rfl
    | some b =>
      obtain ⟨v, hv, hbv⟩ := hb
      obtain rfl := ha v hv
      exact absurd hbv (hnull b)
  | some a =>
    obtain ⟨v, hv, hav⟩ := ha
    cases b with
    | none =>
      obtain rfl := hb v hv
      exact absurd hav (hnull a)
    | some b =>
      obtain ⟨w, hw, hbw⟩ := hb
      obtain rfl := value_eq_of_nodup hdistinct hv hw
      rw [hspells a b v hav hbw]

theorem spelled (hdistinct : (members.map Prod.fst).Nodup) (h : Given members name spells a) {v : Value}
    (hv : (name, v) ∈ members) : v = .null ∨ ∃ a, spells a v := by
  cases a with
  | none => exact Or.inl (h v hv)
  | some a =>
    obtain ⟨w, hw, ha⟩ := h
    obtain rfl := value_eq_of_nodup hdistinct hv hw
    exact Or.inr ⟨a, ha⟩

end Given

/-- An optional field of a record has what the object gives under its name. -/
theorem Field.given_of_readMembers {α : Type} (F : Field step? (Option α)) {reader : Reader α}
    {name : String} {spells : α → Value → Prop} {members : List (String × Value)} {fields fields' : σ}
    (hnames : F.names = [name]) (hreader : F.reader = readOptional reader)
    (hspells : ∀ a v, reader (Node.ofValue v) = .ok a ↔ spells a v) (hnull : ∀ a, reader .null ≠ .ok a)
    (hget : F.get fields = none) (h : readMembers step? fields (Node.ofMembers members) = .ok fields') :
    Given members name spells (F.get fields').join := by
  have hname : name ∈ F.names := hnames ▸ List.mem_singleton_self name
  cases hjoin : (F.get fields').join with
  | none =>
    intro v hv
    obtain ⟨a, ha, hget'⟩ := F.exists_of_mem h hname (mem_ofMembers.mpr ⟨v, hv, rfl⟩)
    rw [hreader, readOptional_eq_ok_iff hnull] at ha
    rcases ha with ⟨hv', -⟩ | ⟨b, -, rfl⟩
    · exact hv'
    · rw [hget'] at hjoin
      cases hjoin
  | some a =>
    obtain ⟨name', hname', node, hmem, ha⟩ := (F.get_eq_some_iff hget h).mp (Option.join_eq_some_iff.mp hjoin)
    rw [hnames, List.mem_singleton] at hname'
    subst hname'
    obtain ⟨v, hv, rfl⟩ := mem_ofMembers.mp hmem
    rw [hreader, readOptional_eq_ok_iff hnull] at ha
    rcases ha with ⟨-, hnone⟩ | ⟨b, hb, heq⟩
    · cases hnone
    · obtain rfl := Option.some.inj heq
      exact ⟨v, hv, (hspells _ _).mp hb⟩

end Compaction.Json
