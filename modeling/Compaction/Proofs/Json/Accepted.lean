import Compaction.Json.Reader
import Compaction.Proofs.Json.Reader
import Mathlib.Data.List.Forall2

/-!
# The values that readers accept

* `readString_eq_ok_iff`, `readBool_eq_ok_iff`, `readCount_eq_ok_iff` : the basic types;
* `node_eq_of_readString`, `node_eq_of_readBool`, `readVariant_text_eq_ok_iff` : no other nodes are accepted in a text;
* `readOptional_eq_ok_iff` : a value that may be null;
* `Spells` : the ways in which the name of a variant may be written, with `readVariant_eq_ok_iff`;
* `readItems_eq_ok_iff` : a sequence is read item by item;
* `forall₂_congr_of_mem`, `exists_forall₂_iff` : which it is if and only if every item is.
-/

namespace Compaction.Json

/-! ## Basic types -/

theorem readString_eq_ok_iff {v : Value} {s : String} :
    readString (Node.ofValue v) = .ok s ↔ v = .string s := by
  cases v <;> simp [Node.ofValue, readString]

theorem readBool_eq_ok_iff {v : Value} {b : Bool} :
    readBool (Node.ofValue v) = .ok b ↔ v = .bool b := by
  cases v <;> simp [Node.ofValue, readBool]

theorem readCount_eq_ok_iff {v : Value} {n : UInt64} :
    readCount (Node.ofValue v) = .ok n ↔ v = .ofUInt64 n := by
  cases v with
  | number number => cases number <;> simp [Node.ofValue, readCount, Value.ofUInt64]
  | _ => simp [Node.ofValue, readCount, Value.ofUInt64]

theorem node_eq_of_readString {node : Node} {s : String} (h : readString node = .ok s) : node = .string (some s) := by
  match node with
  | .string (some _) => rw [Except.ok.inj h]

theorem node_eq_of_readBool {node : Node} {b : Bool} (h : readBool node = .ok b) : node = .bool b := by
  match node with
  | .bool _ => rw [Except.ok.inj h]

theorem readOptional_of_ne_null {α : Type} (reader : Reader α) {v : Value} (hv : v ≠ .null) :
    readOptional reader (Node.ofValue v) = (reader (Node.ofValue v)).map some := by
  cases v <;> first | rfl | exact absurd rfl hv

/-- Null is the same as none; a reader that accepts null itself would not be asked. -/
theorem readOptional_eq_ok_iff {α : Type} {reader : Reader α} {v : Value} {a : Option α}
    (hnull : ∀ a, reader .null ≠ .ok a) :
    readOptional reader (Node.ofValue v) = .ok a ↔
      (v = .null ∧ a = none) ∨ ∃ b, reader (Node.ofValue v) = .ok b ∧ a = some b := by
  by_cases hv : v = .null
  · subst hv
    simp [Node.ofValue, readOptional, hnull, eq_comm]
  · rw [readOptional_of_ne_null reader hv]
    cases reader (Node.ofValue v) <;> simp [Except.map, hv, eq_comm]

theorem exists_readOptional {α : Type} {reader : Reader α} {v : Value}
    (h : v = .null ∨ ∃ a, reader (Node.ofValue v) = .ok a) :
    ∃ a, readOptional reader (Node.ofValue v) = .ok a := by
  by_cases hv : v = .null
  · subst hv
    exact ⟨none, rfl⟩
  · obtain ⟨a, ha⟩ := h.resolve_left hv
    refine ⟨some a, ?_⟩
    rw [readOptional_of_ne_null reader hv, ha]
    rfl

/-! ## Variants -/

/-- The ways to write the name of a variant: by itself, or as the only member of an object whose value is
null. Among the members of a stage, an empty object may stand for null there. -/
inductive Spells (source : Source) (label : String) : Value → Prop where
  | name : Spells source label (.string label)
  | member : Spells source label (.object [(label, .null)])
  | emptyMember (h : source = .kept) : Spells source label (.object [(label, .object [])])

theorem Spells.label_eq {source : Source} {label label' : String} {v : Value} (h : Spells source label v)
    (h' : Spells source label' v) : label = label' := by
  cases h <;> cases h' <;> rfl

/-- An empty object stands for null only among the members of a stage. -/
theorem Spells.eq_kept {source : Source} {label : String} {v : Value} (h : Spells source label v)
    (hempty : ∃ label', v = .object [(label', .object [])]) : source = .kept := by
  obtain ⟨label', rfl⟩ := hempty
  cases h with
  | emptyMember hkept => exact hkept

/-- Among the members of a stage, the other ways to write a name are the same as anywhere else. -/
theorem spells_kept_iff {source : Source} {label : String} {v : Value}
    (hempty : v ≠ .object [(label, .object [])]) : Spells .kept label v ↔ Spells source label v := by
  constructor <;> intro h
  · cases h with
    | name => exact .name
    | member => exact .member
    | emptyMember => exact absurd rfl hempty
  · cases h with
    | name => exact .name
    | member => exact .member
    | emptyMember => exact absurd rfl hempty

theorem variantNamed_eq_ok_iff {α : Type} {all : List α} {label : α → String} {a : α} {name : String}
    (hall : ∀ a, a ∈ all) (hinj : ∀ a b, label a = label b → a = b) :
    variantNamed all label name = .ok a ↔ name = label a := by
  constructor
  · intro h
    unfold variantNamed at h
    split at h
    · rename_i b hfind
      obtain rfl := Except.ok.inj h
      have hlabel := List.find?_some hfind
      exact (eq_of_beq hlabel).symm
    · cases h
  · rintro rfl
    exact variantNamed_label (hall a) fun b _ hb => hinj b a hb

theorem readUnit_eq_ok_iff {source : Source} {v : Value} :
    readUnit source (Node.ofValue v) = .ok () ↔ v = .null ∨ source = .kept ∧ v = .object [] := by
  cases v with
  | object members =>
    cases members with
    | nil => simp [Node.ofValue, Node.ofMembers, readUnit]
    | cons m members => simp [Node.ofValue, Node.ofMembers, readUnit]
  | _ => simp [Node.ofValue, readUnit]

/-- In a text, only null stands behind the name of a variant. -/
theorem node_eq_of_readUnit {node : Node} (h : readUnit .text node = .ok ()) : node = .null := by
  cases node with
  | null => rfl
  | object members => cases members <;> cases h
  | _ => cases h

/-- An object stands for a variant only if it has a single member. -/
theorem readVariant_object_eq_ok_iff {α : Type} {source : Source} {all : List α} {label : α → String}
    {a : α} {members : List (String × Value)} :
    readVariant source all label (Node.ofValue (.object members)) = .ok a ↔
      ∃ name v, members = [(name, v)] ∧ variantNamed all label name = .ok a ∧
        readUnit source (Node.ofValue v) = .ok () := by
  match members with
  | [] => cases source <;> simp [Node.ofValue, Node.ofMembers, readVariant]
  | [(name, v)] =>
    have hread : readVariant source all label (Node.ofValue (.object [(name, v)])) =
        (variantNamed all label name).bind fun a =>
          (readUnit source (Node.ofValue v)).bind fun _ => .ok a := by
      cases source <;> rfl
    rw [hread]
    cases hname : variantNamed all label name with
    | error fault => simp [Except.bind, hname]
    | ok b => cases hunit : readUnit source (Node.ofValue v) <;> simp [Except.bind, hname, hunit]
  | (name, v) :: m :: members =>
    cases source with
    | text =>
      have hread : readVariant .text all label (Node.ofValue (.object ((name, v) :: m :: members))) =
          (variantNamed all label name).bind fun _ =>
            (readUnit .text (Node.ofValue v)).bind fun _ => .error .malformed := rfl
      rw [hread]
      cases variantNamed all label name with
      | error fault => simp [Except.bind]
      | ok b => cases readUnit .text (Node.ofValue v) <;> simp [Except.bind]
    | tree => simp [Node.ofValue, Node.ofMembers, readVariant]
    | kept => simp [Node.ofValue, Node.ofMembers, readVariant]

theorem readVariant_eq_ok_iff {α : Type} {source : Source} {all : List α} {label : α → String} {a : α}
    {v : Value} (hall : ∀ a, a ∈ all) (hinj : ∀ a b, label a = label b → a = b) :
    readVariant source all label (Node.ofValue v) = .ok a ↔ Spells source (label a) v := by
  cases v with
  | string name =>
    show variantNamed all label name = .ok a ↔ _
    rw [variantNamed_eq_ok_iff hall hinj]
    constructor
    · rintro rfl
      exact .name
    · intro h
      cases h
      rfl
  | object members =>
    rw [readVariant_object_eq_ok_iff]
    constructor
    · rintro ⟨name, v, rfl, hname, hunit⟩
      obtain rfl := (variantNamed_eq_ok_iff hall hinj).mp hname
      rcases readUnit_eq_ok_iff.mp hunit with rfl | ⟨hkept, rfl⟩
      · exact .member
      · exact .emptyMember hkept
    · intro h
      have hname : variantNamed all label (label a) = .ok a := (variantNamed_eq_ok_iff hall hinj).mpr rfl
      cases h with
      | member => exact ⟨_, _, rfl, hname, readUnit_eq_ok_iff.mpr (Or.inl rfl)⟩
      | emptyMember hkept => exact ⟨_, _, rfl, hname, readUnit_eq_ok_iff.mpr (Or.inr ⟨hkept, rfl⟩)⟩
  | null | bool b | number n | array items =>
    -- What is neither a string nor an object is no variant, whatever it comes from.
    refine iff_of_false ?_ (by rintro ⟨⟩)
    cases source <;> simp [Node.ofValue, readVariant]

/-- In a text, a variant is a string or an object with a single member, whatever else may stand there. -/
theorem readVariant_text_eq_ok_iff {α : Type} {all : List α} {label : α → String} {a : α} {node : Node}
    (hall : ∀ a, a ∈ all) (hinj : ∀ a b, label a = label b → a = b) :
    readVariant .text all label node = .ok a ↔
      node = .string (some (label a)) ∨ node = .object [(some (label a), .null)] := by
  constructor
  · intro h
    match node with
    | .string (some name) =>
      obtain rfl := (variantNamed_eq_ok_iff hall hinj).mp h
      exact Or.inl rfl
    | .object ((some name, value) :: more) =>
      have hread : (variantNamed all label name).bind (fun a => (readUnit .text value).bind fun _ =>
          if more.isEmpty then .ok a else .error .malformed) = .ok a := h
      cases hname : variantNamed all label name with
      | error fault =>
        rw [hname] at hread
        cases hread
      | ok b =>
        cases hunit : readUnit .text value with
        | error fault =>
          rw [hname, hunit] at hread
          cases hread
        | ok _ =>
          rw [hname, hunit] at hread
          obtain rfl := node_eq_of_readUnit hunit
          cases more with
          | cons m more => cases hread
          | nil =>
            obtain rfl := Except.ok.inj hread
            obtain rfl := (variantNamed_eq_ok_iff hall hinj).mp hname
            exact Or.inr rfl
  · have hname : variantNamed all label (label a) = .ok a := (variantNamed_eq_ok_iff hall hinj).mpr rfl
    rintro (rfl | rfl)
    · exact hname
    · show (variantNamed all label (label a)).bind _ = _
      rw [hname]
      rfl

/-! ## Sequences -/

theorem readItemsFrom_eq_ok_iff {α : Type} {reader : Reader α} {read as : List α} {nodes : List Node} :
    readItemsFrom reader read nodes = .ok as ↔
      ∃ more, as = read.reverse ++ more ∧ List.Forall₂ (fun node a => reader node = .ok a) nodes more := by
  induction nodes generalizing read with
  | nil => simp [readItemsFrom, eq_comm]
  | cons node nodes ih =>
    rw [readItemsFrom]
    cases hread : reader node with
    | error fault =>
      simp only [reduceCtorEq, false_iff, not_exists, not_and]
      intro more _ hmore
      cases hmore with
      | cons hnode _ => rw [hread] at hnode; cases hnode
    | ok a =>
      simp only [ih, List.reverse_cons, List.append_assoc, List.singleton_append]
      constructor
      · rintro ⟨more, has, hmore⟩
        exact ⟨a :: more, has, .cons hread hmore⟩
      · rintro ⟨more, has, hmore⟩
        cases hmore with
        | cons hnode hnodes =>
          obtain rfl := Except.ok.inj (hread.symm.trans hnode)
          exact ⟨_, has, hnodes⟩

theorem readItems_eq_ok_iff {α : Type} {reader : Reader α} {as : List α} {nodes : List Node} :
    readItems reader (.array nodes) = .ok as ↔
      List.Forall₂ (fun node a => reader node = .ok a) nodes as := by
  show readItemsFrom reader [] nodes = .ok as ↔ _
  rw [readItemsFrom_eq_ok_iff]
  constructor
  · rintro ⟨more, rfl, hmore⟩
    exact hmore
  · intro h
    exact ⟨as, rfl, h⟩

theorem forall₂_congr_of_mem {α β : Type} {R S : α → β → Prop} {as : List α} {bs : List β}
    (h : ∀ a ∈ as, ∀ b, R a b ↔ S a b) : List.Forall₂ R as bs ↔ List.Forall₂ S as bs := by
  constructor
  · intro hR
    exact ((List.forall₂_and_left as bs).mpr ⟨h, hR⟩).imp fun a b hab => (hab.1 b).mp hab.2
  · intro hS
    exact ((List.forall₂_and_left as bs).mpr ⟨h, hS⟩).imp fun a b hab => (hab.1 b).mpr hab.2

theorem exists_forall₂_iff {α β : Type} {R : α → β → Prop} {as : List α} :
    (∃ bs, List.Forall₂ R as bs) ↔ ∀ a ∈ as, ∃ b, R a b := by
  induction as with
  | nil => exact iff_of_true ⟨[], .nil⟩ nofun
  | cons a as ih =>
    rw [List.forall_mem_cons, ← ih]
    constructor
    · rintro ⟨_, h⟩
      cases h with
      | cons hb hbs => exact ⟨⟨_, hb⟩, ⟨_, hbs⟩⟩
    · rintro ⟨⟨b, hb⟩, ⟨bs, hbs⟩⟩
      exact ⟨b :: bs, .cons hb hbs⟩

end Compaction.Json
