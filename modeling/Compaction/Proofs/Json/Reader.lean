import Compaction.Json.Reader
import Compaction.Proofs.Json.Document

/-!
# Readers on written values

* `variantNamed_label` : a label leads back to its value when no two values share one;
* `readItems_ofValue` : a sequence is read back when its items are;
* `readMembers_known`, `readField_first` : a record takes a member that it knows and has not seen before;
* `readMembers_unknown` : and passes over members that it does not know;
* `Document.read_written` : a reader that takes the node of a value takes the written value.
-/

namespace Compaction.Json

/-- A label leads back to its value when no two values share one. -/
theorem variantNamed_label {α : Type} {all : List α} {label : α → String} {a : α} (ha : a ∈ all)
    (hinj : ∀ b ∈ all, label b = label a → b = a) : variantNamed all label (label a) = .ok a := by
  unfold variantNamed
  cases hfind : all.find? fun b => label b == label a with
  | none => exact absurd (beq_self_eq_true (label a)) (List.find?_eq_none.mp hfind a ha)
  | some b =>
    have hb := List.find?_some hfind
    rw [hinj b (List.mem_of_find?_eq_some hfind) (eq_of_beq hb)]

/-! ## Sequences -/

theorem Node.ofValues_eq_map (vs : List Value) : Node.ofValues vs = vs.map Node.ofValue := by
  induction vs with
  | nil => rfl
  | cons v vs ih => rw [Node.ofValues, ih, List.map_cons]

theorem readItemsFrom_map {α : Type} {reader : Reader α} {node : α → Node} {as : List α}
    (h : ∀ a ∈ as, reader (node a) = .ok a) (read : List α) :
    readItemsFrom reader read (as.map node) = .ok (read.reverse ++ as) := by
  induction as generalizing read with
  | nil => rw [List.map_nil, readItemsFrom, List.append_nil]
  | cons a as ih =>
    have has := fun b hb => h b (List.mem_cons_of_mem a hb)
    rw [List.map_cons, readItemsFrom, h a List.mem_cons_self]
    show readItemsFrom reader (a :: read) (as.map node) = _
    rw [ih has, List.reverse_cons, List.append_assoc, List.singleton_append]

/-- A sequence is read back when its items are. -/
theorem readItems_ofValue {α : Type} {reader : Reader α} {toValue : α → Value} {as : List α}
    (h : ∀ a ∈ as, reader (Node.ofValue (toValue a)) = .ok a) :
    readItems reader (Node.ofValue (.array (as.map toValue))) = .ok as := by
  have hnodes : Node.ofValues (as.map toValue) = as.map fun a => Node.ofValue (toValue a) := by
    rw [Node.ofValues_eq_map, List.map_map]
    rfl
  show readItemsFrom reader [] (Node.ofValues (as.map toValue)) = .ok as
  rw [hnodes, readItemsFrom_map h, List.reverse_nil, List.nil_append]

/-! ## Records -/

theorem readField_first {α σ : Type} (name : String) (reader : Reader α) (store : α → σ) {node : Node}
    {a : α} (h : reader node = .ok a) : readField name none reader store node = .ok (store a) := by
  show (reader node).map store = .ok (store a)
  rw [h]
  rfl

/-- A record takes a member that it knows. -/
theorem readMembers_known {σ : Type} {step? : σ → String → Option (Reader σ)} {fields fields' : σ}
    {name : String} {reader : Reader σ} {node : Node} (members : List (Option String × Node))
    (hstep : step? fields name = some reader) (hread : reader node = .ok fields') :
    readMembers step? fields ((some name, node) :: members) = readMembers step? fields' members := by
  rw [readMembers]
  simp only [hstep, hread]

/-- A record passes over members that it does not know, as long as their names and values are written
well. -/
theorem readMembers_unknown {σ : Type} {step? : σ → String → Option (Reader σ)} {fields : σ}
    {members : List (Option String × Node)}
    (h : ∀ m ∈ members, (∃ name, m.1 = some name ∧ step? fields name = none) ∧ m.2.isWhole = true) :
    readMembers step? fields members = .ok fields := by
  induction members with
  | nil => rfl
  | cons m members ih =>
    rw [List.forall_mem_cons] at h
    obtain ⟨⟨⟨name, hname, hstep⟩, hwhole⟩, hrest⟩ := h
    obtain ⟨key, node⟩ := m
    obtain rfl : key = some name := hname
    rw [readMembers]
    simp only [hstep]
    rw [if_pos hwhole, ih hrest]

/-! ## Documents -/

/-- A reader that takes the node of a value takes the written value, with white space behind it. -/
theorem Document.read_written {α : Type} {reader : Reader α} {v : Value} {a : α} (hv : v.IsExact)
    (hread : reader (Node.ofValue v) = .ok a) (layout : Value.Layout) {tail : List Char}
    (htail : ∀ c ∈ tail, isSpace c = true) :
    (ofLexemes (lexemes (v.toChars layout 0 ++ tail))).read reader = .ok a := by
  rw [ofLexemes_toChars hv layout htail, read, hread]
  rfl

end Compaction.Json
