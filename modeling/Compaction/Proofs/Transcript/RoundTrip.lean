import Compaction.Command.Run
import Compaction.Proofs.Json.Reader

/-!
# Written transcripts are read back

* `Role.read_label` : a role is read back from its label;
* `Entry.isExact_toValue`, `Entry.read_toValue` : an entry is written without numbers, and is read back;
* `History.ofText_layout` : a transcript is read back from either layout, with white space behind it;
* `reading_undoes_writing` : what a command writes is read back as the same transcript.
-/

namespace Compaction

open Json (Node Value isSpace)

/-! ## Entries -/

theorem Role.label_inj {a b : Role} (h : a.label = b.label) : a = b := by
  revert h
  cases a <;> cases b <;> decide

/-- A role is read back from its label. -/
theorem Role.read_label (role : Role) : Role.read .text (.string (some role.label)) = .ok role := by
  have hmem : role ∈ Role.all := by
    cases role <;> decide
  exact Json.variantNamed_label hmem fun _ _ h => Role.label_inj h

theorem Entry.isExact_toValue (e : Entry) : e.toValue.IsExact := by
  refine Value.IsExact.object ?_
  intro m hm
  simp only [List.mem_cons, List.not_mem_nil, or_false] at hm
  rcases hm with rfl | rfl | rfl
  · exact .string _
  · exact .string _
  · exact .bool _

/-- An entry is read back from its three members. -/
theorem Entry.read_toValue (e : Entry) : Entry.read .text (Node.ofValue e.toValue) = .ok e := by
  obtain ⟨role, content, isDemo⟩ := e
  show (Json.readMembers (EntryFields.step? .text) {}
      [(some "role", .string (some role.label)), (some "content", .string (some content)),
        (some "is_demo", .bool isDemo)]).bind EntryFields.toEntry = .ok ⟨role, content, isDemo⟩
  rw [Json.readMembers_known _ rfl (Json.readField_first "role" (Role.read .text) _ (Role.read_label role)),
    Json.readMembers_known _ rfl (Json.readField_first "content" Json.readString _ rfl),
    Json.readMembers_known _ rfl (Json.readField_first "is_demo" Json.readBool _ rfl)]
  rfl

/-! ## Transcripts -/

namespace History

theorem isExact_toValue (h : History) : h.toValue.IsExact := by
  refine Value.IsExact.array ?_
  intro v hv
  obtain ⟨e, -, rfl⟩ := List.mem_map.mp hv
  exact e.isExact_toValue

theorem read_toValue (h : History) : read .text (Node.ofValue h.toValue) = .ok h :=
  Json.readItems_ofValue fun e _ => e.read_toValue

/-- A transcript is read back from either layout, with white space behind it. -/
theorem ofText_layout (h : History) (layout : Value.Layout) {tail : String}
    (htail : ∀ c ∈ tail.toList, isSpace c = true) :
    ofText (String.ofList (h.toValue.toChars layout 0) ++ tail) = .ok h := by
  unfold ofText Json.Document.ofText
  rw [String.toList_append, String.toList_ofList]
  exact Json.Document.read_written h.isExact_toValue h.read_toValue layout htail

end History

/-- **Reading undoes writing.** The compact form and the pretty form of a transcript, each with the line
feed at its end, and therefore the output of every command stand for exactly that transcript, whatever its
roles, marks and contents. -/
theorem reading_undoes_writing (h : History) :
    History.ofText (h.compact ++ "\n") = .ok h ∧ History.ofText (h.pretty ++ "\n") = .ok h
      ∧ ∀ o : Command.Options, History.ofText (Command.written o h) = .ok h := by
  have hfeed : ∀ c ∈ "\n".toList, isSpace c = true := by
    intro c hc
    obtain rfl : c = '\n' := List.mem_singleton.mp hc
    rfl
  have hcompact : History.ofText (h.compact ++ "\n") = .ok h := h.ofText_layout .compact hfeed
  have hpretty : History.ofText (h.pretty ++ "\n") = .ok h := h.ofText_layout .pretty hfeed
  refine ⟨hcompact, hpretty, ?_⟩
  intro o
  unfold Command.written
  split
  · exact hpretty
  · exact hcompact

end Compaction
