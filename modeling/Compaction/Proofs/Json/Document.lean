import Compaction.Proofs.Json.Grammar

/-!
# Written values are read back

* `Value.IsExact` : a value without floats, whose written form determines it;
* `isText_moreItems`, `isText_moreMembers` : what is written behind the first item or member, up to the closing bracket;
* `Value.IsExact.isText` : an exact value is written as the grammar has it, in both layouts;
* `Value.IsExact.isDocument` : so its text on one line is the text of a document;
* `Document.ofLexemes_toChars` : the document of a written value with white space behind it.
-/

namespace Compaction.Json

open Value (Layout stringChars)

/-- A value in which every number is a whole number of 64 bits. -/
inductive Value.IsExact : Value → Prop where
  | null : IsExact .null
  | bool (b : Bool) : IsExact (.bool b)
  | number {n : Number} (hn : n.IsWhole) : IsExact (.number n)
  | string (s : String) : IsExact (.string s)
  | array {items : List Value} (h : ∀ v ∈ items, IsExact v) : IsExact (.array items)
  | object {members : List (String × Value)} (h : ∀ m ∈ members, IsExact m.2) :
    IsExact (.object members)

theorem isBlank_gap (layout : Layout) (level : Nat) : IsBlank (layout.gap level) := by
  cases layout with
  | compact => exact isBlank_nil
  | pretty =>
    refine List.forall_mem_cons.mpr ⟨rfl, fun c hc => ?_⟩
    obtain rfl := List.eq_of_mem_replicate hc
    rfl

/-! ## Containers -/

theorem isText_member (layout : Layout) (name : String) {node : Node} {text : List Char}
    (h : IsText (.value node) text) :
    IsText (.member (some name, node)) (stringChars name ++ (layout.colon ++ text)) := by
  cases layout with
  | compact => exact .member (isStringText_stringChars name) isBlank_nil isBlank_nil h
  | pretty => exact .member (isStringText_stringChars name) isBlank_nil isBlank_space h

section

variable {layout : Layout} {level : Nat} {closing : List Char}

theorem isText_moreItems {vs : List Value} (h : ∀ v ∈ vs, IsText (.value (Node.ofValue v)) (v.toChars layout level))
    (hclosing : IsText (.moreItems []) closing) :
    IsText (.moreItems (Node.ofValues vs)) (Value.moreItems layout level vs ++ closing) := by
  induction vs with
  | nil => exact hclosing
  | cons v vs ih =>
    rw [List.forall_mem_cons] at h
    rw [Value.moreItems]
    simp only [List.cons_append, List.append_assoc]
    exact .nextItem isBlank_nil (isBlank_gap layout level) h.1 (ih h.2)

theorem isText_moreMembers {members : List (String × Value)}
    (h : ∀ m ∈ members, IsText (.value (Node.ofValue m.2)) (m.2.toChars layout level))
    (hclosing : IsText (.moreMembers []) closing) :
    IsText (.moreMembers (Node.ofMembers members)) (Value.moreMembers layout level members ++ closing) := by
  induction members with
  | nil => exact hclosing
  | cons m members ih =>
    obtain ⟨name, v⟩ := m
    rw [List.forall_mem_cons] at h
    have hmember := isText_member layout name h.1
    have htext := IsText.nextMember isBlank_nil (isBlank_gap layout level) hmember (ih h.2)
    rw [Value.moreMembers]
    simp only [List.cons_append, List.append_assoc, List.nil_append] at htext ⊢
    exact htext

end

/-! ## All values -/

/-- **An exact value is written as the grammar has it**, in both layouts and at every depth. -/
theorem Value.IsExact.isText {v : Value} (hv : v.IsExact) (layout : Layout) (level : Nat) :
    IsText (.value (Node.ofValue v)) (v.toChars layout level) := by
  induction hv generalizing level with
  | null => exact .null
  | bool b =>
    cases b with
    | true => exact .true
    | false => exact .false
  | number hn =>
    obtain ⟨t, ht, hvalue⟩ := hn.exists_isNumberText
    have htext := IsText.number ht
    rwa [hvalue] at htext
  | string s => exact .string (isStringText_stringChars s)
  | @array items _ ih =>
    cases items with
    | nil => exact .emptyArray isBlank_nil
    | cons v vs =>
      rw [List.forall_mem_cons] at ih
      have hmore := isText_moreItems (fun w hw => ih.2 w hw (level + 1)) (.closeArray (isBlank_gap layout level))
      have htext := IsText.array (isBlank_gap layout (level + 1)) (ih.1 (level + 1)) hmore
      rw [Value.toChars]
      simp only [List.cons_append, List.append_assoc] at htext ⊢
      exact htext
  | @object members _ ih =>
    cases members with
    | nil => exact .emptyObject isBlank_nil
    | cons m members =>
      obtain ⟨name, v⟩ := m
      rw [List.forall_mem_cons] at ih
      have hmember := isText_member layout name (ih.1 (level + 1))
      have hmore := isText_moreMembers (fun m hm => ih.2 m hm (level + 1)) (.closeObject (isBlank_gap layout level))
      have htext := IsText.object (isBlank_gap layout (level + 1)) hmember hmore
      rw [Value.toChars]
      simp only [List.cons_append, List.append_assoc] at htext ⊢
      exact htext

theorem Value.IsExact.isDocument {v : Value} (hv : v.IsExact) : IsDocument (Node.ofValue v) v.compact := by
  refine ⟨[], v.toChars .compact 0, [], isBlank_nil, hv.isText .compact 0, isBlank_nil, ?_⟩
  rw [Value.compact, String.toList_ofList, List.append_nil]
  rfl

/-- The document of a written value with white space behind it. -/
theorem Document.ofLexemes_toChars {v : Value} (hv : v.IsExact) (layout : Layout) {tail : List Char}
    (htail : ∀ c ∈ tail, isSpace c = true) :
    ofLexemes (lexemes (v.toChars layout 0 ++ tail)) = ⟨Node.ofValue v, true⟩ :=
  IsText.ofLexemes_eq (hv.isText layout 0) isBlank_nil htail

end Compaction.Json
