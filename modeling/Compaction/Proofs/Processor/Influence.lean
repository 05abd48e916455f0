import Compaction.Proofs.Policy.Replacement

/-!
# What a compaction depends on

* `SameOutputs h₁ h₂` : the two transcripts differ in the contents of protected entries only
  (`SameOutputs.standingAt_eq`);
* `protected_text_has_no_influence` : no processor can tell them apart, by what it does to the other
  entries;
* `History.EndsInObservation` : the final entry is an observation (`History.standingAt_outputs_eq`);
* `compaction_commutes_with_erasure` : a processor does to the observations alone what it does to them
  in the transcript, provided that the final entry is one of them or that no policy exempts it.

Both follow leaf by leaf. A leaf looks at the standing of an observation only, and what it leaves behind
is related like what it was given, so that the next leaf finds the same standings again.
-/

namespace Compaction

/-! ## Protected text -/

/-- The transcripts have the same roles and marks, and the same contents but for protected entries. -/
structure SameOutputs (h₁ h₂ : History) : Prop where
  length_eq : h₂.length = h₁.length
  role_eq : h₂.map Entry.role = h₁.map Entry.role
  isDemo_eq : h₂.map Entry.isDemo = h₁.map Entry.isDemo
  content_eq : ∀ i, h₁.Replaceable i → h₂[i]?.map Entry.content = h₁[i]?.map Entry.content

namespace SameOutputs

variable {h₁ h₂ : History}

theorem isObservation_eq (hs : SameOutputs h₁ h₂) :
    h₂.map Entry.isObservation = h₁.map Entry.isObservation :=
  History.map_isObservation_congr hs.role_eq hs.isDemo_eq

theorem replaceable_iff (hs : SameOutputs h₁ h₂) (i : Nat) : h₂.Replaceable i ↔ h₁.Replaceable i :=
  History.replaceable_congr hs.isObservation_eq i

/-- Replaceable entries are the same as a whole. -/
theorem getElem?_eq (hs : SameOutputs h₁ h₂) {i : Nat} (hr : h₁.Replaceable i) : h₂[i]? = h₁[i]? := by
  have hmap : ∀ {α : Type} (f : Entry → α), h₂.map f = h₁.map f → h₂[i]?.map f = h₁[i]?.map f := by
    intro α f hf
    rw [← List.getElem?_map, ← List.getElem?_map, hf]
  have hrole := hmap Entry.role hs.role_eq
  have hdemo := hmap Entry.isDemo hs.isDemo_eq
  have hcontent := hs.content_eq i hr
  obtain ⟨e₁, he₁, -, -⟩ := hr
  rw [he₁] at hrole hdemo hcontent ⊢
  obtain ⟨e₂, he₂, hrole⟩ := Option.map_eq_some_iff.mp hrole
  rw [he₂, Option.map_some, Option.map_some, Option.some.injEq] at hdemo hcontent
  have hparts : e₂ = ⟨e₂.role, e₂.content, e₂.isDemo⟩ := rfl
  rw [he₂, hparts, hrole, hcontent, hdemo]

/-- An observation has the same standing in both: behind it, every observation is replaceable. -/
theorem standingAt_eq (hs : SameOutputs h₁ h₂) {i : Nat} {e : Entry} (he : h₁[i]? = some e)
    (hobs : e.isObservation = true) : h₂.standingAt i = h₁.standingAt i := by
  have hbefore : (h₂.standingAt i).before = (h₁.standingAt i).before :=
    History.before_congr hs.isObservation_eq i
  have hbehind : History.outputs (h₂.drop (i + 1)) = History.outputs (h₁.drop (i + 1)) := by
    refine History.outputs_congr ?_ fun k later hlater hobs' => ?_
    · rw [List.map_drop, List.map_drop, hs.isObservation_eq]
    · rw [List.getElem?_drop] at hlater ⊢
      rw [hs.getElem?_eq (History.replaceable_of_lt (by omega) he hobs hlater hobs'), hlater]
  have hfinal : (h₂.drop (i + 1)).isEmpty = (h₁.drop (i + 1)).isEmpty := by
    rw [Bool.eq_iff_iff, List.isEmpty_iff, List.isEmpty_iff, List.drop_eq_nil_iff, List.drop_eq_nil_iff,
      hs.length_eq]
  rw [History.standingAt, History.standingAt] at hbefore ⊢
  rw [Standing.mk.injEq]
  exact ⟨hbefore, hbehind, hfinal⟩

/-- A leaf keeps the relation. -/
theorem run {p : Processor} (hp : ∀ name stages, p ≠ .pipeline name stages) (hs : SameOutputs h₁ h₂) :
    SameOutputs (p.run h₁) (p.run h₂) := by
  have hp₁ := p.preserves_run h₁
  have hp₂ := p.preserves_run h₂
  refine ⟨?_, ?_, ?_, fun i hr => ?_⟩
  · rw [hp₁.length_eq, hp₂.length_eq, hs.length_eq]
  · rw [hp₁.role_eq, hp₂.role_eq, hs.role_eq]
  · rw [hp₁.isDemo_eq, hp₂.isDemo_eq, hs.isDemo_eq]
  · rw [hp₁.replaceable_iff] at hr
    obtain ⟨e, he, hobs, -⟩ := id hr
    rw [p.getElem?_run hp, p.getElem?_run hp, hs.getElem?_eq hr, hs.standingAt_eq he hobs]

end SameOutputs

/-- **Protected text has no influence.** Whatever stands in the task statement, in demonstrations and in
entries of the system or the assistant: a processor does the same to all other entries. -/
theorem protected_text_has_no_influence (p : Processor) {h₁ h₂ : History} (hs : SameOutputs h₁ h₂) :
    SameOutputs (p.run h₁) (p.run h₂) := by
  rw [p.run_eq_foldl_leaves h₁, p.run_eq_foldl_leaves h₂]
  refine List.foldl_rel (r := SameOutputs) hs fun leaf hleaf g₁ g₂ hg => ?_
  exact hg.run (Processor.ne_pipeline_of_mem_leaves hleaf)

/-- A transcript in which the assistant talks behind a window. -/
def answered (answer : String) : History := [
  { role := .user, content := "task" },
  { role := .user, content := "[File: a (1 lines total)]\n1:x" },
  { role := .assistant, content := answer },
  { role := .user, content := "done" }]

/-- The assistant may repeat the window, and yet the window does not become stale. -/
theorem protected_text_has_no_influence_answered :
    SameOutputs (answered "thanks") (answered "[File: a (1 lines total)]\n1:x") ∧
    ((Processor.pipeline "outer" [.pipeline "inner" [.staleWindows], .failedEdits {}]).run
        (answered "[File: a (1 lines total)]\n1:x"))[1]?.map Entry.content =
      some "[File: a (1 lines total)]\n1:x" := by
  have hs : SameOutputs (answered "thanks") (answered "[File: a (1 lines total)]\n1:x") := by
    refine ⟨rfl, rfl, rfl, fun i hr => ?_⟩
    obtain ⟨e, he, hobs, -⟩ := hr
    match i with
    | 0 | 1 | 3 => rfl
    | 2 =>
      obtain rfl := Option.some.inj he
      cases hobs
    | i + 4 => rfl
  refine ⟨hs, ?_⟩
  have hrun := protected_text_has_no_influence
    (.pipeline "outer" [.pipeline "inner" [.staleWindows], .failedEdits {}]) hs
  rw [hrun.content_eq 1]
  · simp only [Processor.run_pipeline, List.foldl]
    decide
  · rw [(Processor.preserves_run _ _).replaceable_iff]
    exact ⟨_, rfl, by decide, by decide⟩

/-! ## Other entries -/

def History.EndsInObservation (h : History) : Prop := ∃ e, h.getLast? = some e ∧ e.isObservation = true

theorem Preserves.endsInObservation {h h' : History} (hp : Preserves h h') (hend : h.EndsInObservation) :
    h'.EndsInObservation := by
  obtain ⟨e, he, hobs⟩ := hend
  have hlast : h'.getLast?.map Entry.isObservation = some true := by
    rw [← List.getLast?_map, hp.isObservation_eq, List.getLast?_map, he, Option.map_some, hobs]
  exact Option.map_eq_some_iff.mp hlast

/-- Nothing stands behind an entry if no observation does. -/
theorem History.final_standingAt {h : History} (hend : h.EndsInObservation) (i : Nat) :
    (h.standingAt i).final = (h.standingAt i).behind.isEmpty := by
  obtain ⟨e, he, hobs⟩ := hend
  show (h.drop (i + 1)).isEmpty = (outputs (h.drop (i + 1))).isEmpty
  by_cases hlen : h.length ≤ i + 1
  · rw [List.drop_eq_nil_of_le hlen]
    rfl
  · have hlast : (h.drop (i + 1)).getLast? = some e := by rw [List.getLast?_drop, if_neg hlen, he]
    have hmem : e ∈ h.drop (i + 1) := List.mem_of_getLast? hlast
    have hmem' : e ∈ outputs (h.drop (i + 1)) := mem_outputs.mpr ⟨hmem, hobs⟩
    rw [List.isEmpty_eq_false_iff_exists_mem.mpr ⟨e, hmem⟩,
      List.isEmpty_eq_false_iff_exists_mem.mpr ⟨e, hmem'⟩]

theorem History.standingAt_outputs_eq {h : History} (hend : h.EndsInObservation) {i : Nat} {e : Entry}
    (he : h[i]? = some e) (hobs : e.isObservation = true) :
    h.outputs.standingAt (h.standingAt i).before = h.standingAt i := by
  rw [standingAt_outputs he hobs, ← final_standingAt hend i]

/-- No other policy looks at the end of the transcript. -/
theorem Processor.fate_final {p : Processor}
    (hfree : ∀ policy, p = .failedEdits policy → policy.keepLast = false) (s : Standing) (final : Bool)
    (e : Entry) : p.fate { s with final } e = p.fate s e := by
  cases p with
  | failedEdits policy =>
    rw [fate, fate, replacement?, replacement?, FailedEdits.replacement?, FailedEdits.replacement?,
      hfree policy rfl, Bool.false_and]
    rfl
  | _ => rfl

theorem Processor.outputs_run {p : Processor} (hp : ∀ name stages, p ≠ .pipeline name stages)
    {h : History} (hend : h.EndsInObservation ∨
      ∀ policy, p = .failedEdits policy → policy.keepLast = false) :
    History.outputs (p.run h) = p.run h.outputs := by
  have hfate : ∀ (i : Nat) (e : Entry), h[i]? = some e → e.isObservation = true →
      p.fate (h.outputs.standingAt (h.standingAt i).before) e = p.fate (h.standingAt i) e := by
    intro i e he hobs
    rcases hend with hend | hfree
    · rw [History.standingAt_outputs_eq hend he hobs]
    · rw [History.standingAt_outputs he hobs, fate_final hfree]
  apply List.ext_getElem?
  intro k
  ext e'
  simp only [p.getElem?_run hp, Option.map_eq_some_iff, History.getElem?_outputs_eq_some_iff,
    History.before_congr (p.preserves_run h).isObservation_eq]
  constructor
  · rintro ⟨i, ⟨e, he, rfl⟩, hobs, rfl⟩
    rw [isObservation_fate] at hobs
    exact ⟨e, ⟨i, he, hobs, rfl⟩, hfate i e he hobs⟩
  · rintro ⟨e, ⟨i, he, hobs, rfl⟩, rfl⟩
    exact ⟨i, ⟨e, he, (hfate i e he hobs).symm⟩, by rw [isObservation_fate, hobs], rfl⟩

/-- Along a sequence of leaves, a final entry that is an observation stays one. -/
theorem Processor.outputs_foldl_run {leaves : List Processor}
    (hleaves : ∀ leaf ∈ leaves, ∀ name stages, leaf ≠ .pipeline name stages) {h : History}
    (hend : h.EndsInObservation ∨ ∀ policy, .failedEdits policy ∈ leaves → policy.keepLast = false) :
    History.outputs (leaves.foldl (fun h leaf => leaf.run h) h) =
      leaves.foldl (fun h leaf => leaf.run h) h.outputs := by
  induction leaves generalizing h with
  | nil => rfl
  | cons leaf leaves ih =>
    rw [List.forall_mem_cons] at hleaves
    have hleaf : History.outputs (leaf.run h) = leaf.run h.outputs :=
      outputs_run hleaves.1 (hend.imp_right fun hfree policy heq => hfree policy (heq ▸ List.mem_cons_self))
    rw [List.foldl_cons, List.foldl_cons, ← hleaf]
    refine ih hleaves.2 ?_
    exact hend.imp (leaf.preserves_run h).endsInObservation fun hfree policy hmem =>
      hfree policy (List.mem_cons_of_mem _ hmem)

/-- **Compaction commutes with erasing everything that is no observation.** The final entry has to be an
observation, unless no policy in the processor exempts it. -/
theorem compaction_commutes_with_erasure (p : Processor) {h : History} (hend : h.EndsInObservation ∨
      ∀ policy, .failedEdits policy ∈ p.leaves → policy.keepLast = false) :
    History.outputs (p.run h) = p.run h.outputs := by
  rw [p.run_eq_foldl_leaves h, p.run_eq_foldl_leaves h.outputs]
  exact Processor.outputs_foldl_run (fun leaf hleaf => Processor.ne_pipeline_of_mem_leaves hleaf) hend

def failedTwice : History := [
  { role := .system, content := "rules" },
  { role := .user, content := "task" },
  { role := .user, content := "Your proposed edit has introduced new syntax error(s)." },
  { role := .assistant, content := "edit 1:1" },
  { role := .user, content := "Your proposed edit has introduced new syntax error(s)." }]

theorem compaction_commutes_with_erasure_failedTwice :
    failedTwice.EndsInObservation ∧
    History.outputs ((Processor.pipeline "both" [.failedEdits {}, .lastOutputs { n := 1, pos := by decide }]).run
        failedTwice) = [
      { role := .user, content := "task" },
      { role := .user, content := "Old output omitted (1 lines)" },
      { role := .user, content := "Your proposed edit has introduced new syntax error(s)." }] := by
  have hend : failedTwice.EndsInObservation := ⟨_, rfl, by decide⟩
  refine ⟨hend, ?_⟩
  rw [compaction_commutes_with_erasure _ (Or.inl hend)]
  simp only [Processor.run_pipeline, List.foldl]
  decide

/-- If another entry comes last, the last observation is exempt only among the observations alone. -/
example : History.outputs ((Processor.failedEdits {}).run (failedTwice.take 4)) ≠
    (Processor.failedEdits {}).run (History.outputs (failedTwice.take 4)) := by
  decide

end Compaction
