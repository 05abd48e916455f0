import Compaction.Policy.Revision

/-!
# Protected entries

* `History.Replaceable h i` : an observation other than the task statement stands at position `i`; all
  other entries are protected;
* `Preserves h h'` : `h'` has the entries of `h`, each with its role and its mark, and with its content
  if it is protected (`Preserves.refl`, `Preserves.trans`, `Preserves.append`);
* `Preserves.replaceable_iff`, `Preserves.taskIndex?_eq`, `Preserves.observationCount_eq` : so the
  positions of the two kinds of entries are the same in both;
* `Preserves.eq_of_replaceable` : two transcripts that preserve one are equal if they agree on its replaceable
  entries;
* `Preserves.revise` : decisions that only concern replaceable entries preserve a transcript.

Which entries are protected is read off the list of the truth values `Entry.isObservation`, and a
compaction does not change that list. This is why each stage of a pipeline finds the same task
statement, although it finds it again.
-/

namespace Compaction

namespace History

/-- An observation other than the task statement stands at position `i`. -/
def Replaceable (h : History) (i : Nat) : Prop :=
  ∃ e, h[i]? = some e ∧ e.isObservation = true ∧ h.taskIndex? ≠ some i

/-! ## Positions of observations -/

theorem taskIndex?_eq_map (h : History) : h.taskIndex? = (h.map Entry.isObservation).findIdx? id := by
  rw [taskIndex?, List.findIdx?_map, Function.id_comp]

theorem observationCount_eq_map (h : History) :
    h.observationCount = (h.map Entry.isObservation).countP id := by
  rw [observationCount, List.countP_map, Function.id_comp]

theorem replaceable_iff_map {h : History} {i : Nat} :
    h.Replaceable i ↔ (h.map Entry.isObservation)[i]? = some true ∧
      (h.map Entry.isObservation).findIdx? id ≠ some i := by
  rw [← taskIndex?_eq_map, List.getElem?_map, Option.map_eq_some_iff]
  constructor
  · rintro ⟨e, he, hobs, hne⟩
    exact ⟨⟨e, he, hobs⟩, hne⟩
  · rintro ⟨⟨e, he, hobs⟩, hne⟩
    exact ⟨e, he, hobs, hne⟩

/-- The role and the mark for demonstrations tell which entries are observations. -/
theorem map_isObservation_congr {h h' : History} (hrole : h'.map Entry.role = h.map Entry.role)
    (hdemo : h'.map Entry.isDemo = h.map Entry.isDemo) :
    h'.map Entry.isObservation = h.map Entry.isObservation := by
  have hzip : ∀ l : History, l.map Entry.isObservation =
      List.zipWith (fun role isDemo => role == .user && !isDemo) (l.map Entry.role)
        (l.map Entry.isDemo) := by
    intro l
    rw [List.zipWith_map, List.zipWith_self]
    rfl
  rw [hzip, hzip, hrole, hdemo]

theorem replaceable_congr {h h' : History}
    (hobs : h'.map Entry.isObservation = h.map Entry.isObservation) (i : Nat) :
    h'.Replaceable i ↔ h.Replaceable i := by
  rw [replaceable_iff_map, replaceable_iff_map, hobs]

/-- The task statement is an observation with no observation before it. -/
theorem taskIndex?_eq_some_iff {h : History} {i : Nat} :
    h.taskIndex? = some i ↔
      (∃ e, h[i]? = some e ∧ e.isObservation = true) ∧ observationCount (h.take i) = 0 := by
  rw [taskIndex?, List.findIdx?_eq_some_iff_getElem, observationCount, List.countP_eq_zero]
  constructor
  · rintro ⟨hi, hobs, hbefore⟩
    refine ⟨⟨h[i], List.getElem?_eq_getElem hi, hobs⟩, fun e he => ?_⟩
    obtain ⟨j, hj, rfl⟩ := List.getElem_of_mem he
    rw [List.length_take] at hj
    rw [List.getElem_take]
    exact hbefore j (by omega)
  · rintro ⟨⟨e, he, hobs⟩, hbefore⟩
    obtain ⟨hi, rfl⟩ := List.getElem?_eq_some_iff.mp he
    refine ⟨hi, hobs, fun j hj => hbefore _ ?_⟩
    exact List.mem_take_iff_getElem.mpr ⟨j, by omega, rfl⟩

theorem taskIndex?_append_iff {h : History} {i : Nat} (hi : i < h.length) (more : History) :
    taskIndex? (h ++ more) = some i ↔ h.taskIndex? = some i := by
  rw [taskIndex?_eq_some_iff, taskIndex?_eq_some_iff, List.getElem?_append_left hi,
    List.take_append_of_le_length (Nat.le_of_lt hi)]

/-- Entries that are appended neither protect an entry nor expose one. -/
theorem replaceable_append_iff {h : History} {i : Nat} (hi : i < h.length) (more : History) :
    Replaceable (h ++ more) i ↔ h.Replaceable i := by
  rw [Replaceable, Replaceable, List.getElem?_append_left hi]
  simp only [ne_eq, taskIndex?_append_iff hi more]

end History

/-! ## Preservation -/

/-- `h'` has the entries of `h`, each with its role and its mark for demonstrations, and with its content
unless it is an observation other than the task statement. -/
structure Preserves (h h' : History) : Prop where
  length_eq : h'.length = h.length
  role_eq : h'.map Entry.role = h.map Entry.role
  isDemo_eq : h'.map Entry.isDemo = h.map Entry.isDemo
  getElem?_eq : ∀ i, ¬ h.Replaceable i → h'[i]? = h[i]?

namespace Preserves

theorem isObservation_eq {h h' : History} (hp : Preserves h h') :
    h'.map Entry.isObservation = h.map Entry.isObservation :=
  History.map_isObservation_congr hp.role_eq hp.isDemo_eq

theorem replaceable_iff {h h' : History} (hp : Preserves h h') (i : Nat) :
    h'.Replaceable i ↔ h.Replaceable i :=
  History.replaceable_congr hp.isObservation_eq i

theorem taskIndex?_eq {h h' : History} (hp : Preserves h h') : h'.taskIndex? = h.taskIndex? := by
  rw [History.taskIndex?_eq_map, History.taskIndex?_eq_map, hp.isObservation_eq]

theorem observationCount_eq {h h' : History} (hp : Preserves h h') :
    h'.observationCount = h.observationCount := by
  rw [History.observationCount_eq_map, History.observationCount_eq_map, hp.isObservation_eq]

theorem refl (h : History) : Preserves h h := ⟨rfl, rfl, rfl, fun _ _ => rfl⟩

theorem trans {h₁ h₂ h₃ : History} (h₁₂ : Preserves h₁ h₂) (h₂₃ : Preserves h₂ h₃) :
    Preserves h₁ h₃ where
  length_eq := h₂₃.length_eq.trans h₁₂.length_eq
  role_eq := h₂₃.role_eq.trans h₁₂.role_eq
  isDemo_eq := h₂₃.isDemo_eq.trans h₁₂.isDemo_eq
  getElem?_eq i hi := by
    rw [h₂₃.getElem?_eq i (mt (h₁₂.replaceable_iff i).mp hi), h₁₂.getElem?_eq i hi]

theorem eq_of_replaceable {h h₁ h₂ : History} (hp₁ : Preserves h h₁) (hp₂ : Preserves h h₂)
    (heq : ∀ i e, h[i]? = some e → h.Replaceable i → h₁[i]? = h₂[i]?) : h₁ = h₂ := by
  apply List.ext_getElem?
  intro i
  by_cases hr : h.Replaceable i
  · obtain ⟨e, he, -⟩ := id hr
    exact heq i e he hr
  · rw [hp₁.getElem?_eq i hr, hp₂.getElem?_eq i hr]

theorem append {h h' : History} (hp : Preserves h h') (more : History) :
    Preserves (h ++ more) (h' ++ more) where
  length_eq := by rw [List.length_append, List.length_append, hp.length_eq]
  role_eq := by rw [List.map_append, List.map_append, hp.role_eq]
  isDemo_eq := by rw [List.map_append, List.map_append, hp.isDemo_eq]
  getElem?_eq i hi := by
    by_cases hlt : i < h.length
    · rw [List.getElem?_append_left hlt, List.getElem?_append_left (hp.length_eq ▸ hlt)]
      exact hp.getElem?_eq i fun hr => hi ((History.replaceable_append_iff hlt more).mpr hr)
    · have hle : h.length ≤ i := Nat.le_of_not_lt hlt
      rw [List.getElem?_append_right hle, List.getElem?_append_right (hp.length_eq ▸ hle),
        hp.length_eq]

/-- An entry that is as it was still is with entries appended, and so is every appended entry. -/
theorem getElem?_append {h h' : History} (hp : Preserves h h') {i : Nat} (hi : h'[i]? = h[i]?)
    (more : History) : (h' ++ more)[i]? = (h ++ more)[i]? := by
  rw [List.getElem?_append, List.getElem?_append, hp.length_eq, hi]

end Preserves

/-! ## Revisions -/

theorem History.getElem?_revise (h : History) (decisions : List (Option Revision)) (i : Nat) :
    (h.revise decisions)[i]? = h[i]?.bind fun e => decisions[i]?.map e.revise := by
  rw [History.revise, List.getElem?_zipWith]
  cases h[i]? <;> cases decisions[i]? <;> rfl

/-- A revision changes the content of an entry only. -/
theorem History.map_revise {α : Type} (f : Entry → α) (hf : ∀ e s, f (e.withContent s) = f e)
    {h : History} {decisions : List (Option Revision)} (hlen : decisions.length = h.length) :
    (h.revise decisions).map f = h.map f := by
  have hrevise : ∀ (e : Entry) (decision : Option Revision), f (e.revise decision) = f e := by
    intro e decision
    cases decision with
    | none => rfl
    | some r => exact hf e r.content
  apply List.ext_getElem?
  intro i
  rw [List.getElem?_map, List.getElem?_map, getElem?_revise]
  by_cases hi : i < h.length
  · rw [List.getElem?_eq_getElem hi, List.getElem?_eq_getElem (hlen ▸ hi)]
    simp only [Option.map_some, Option.bind_some, hrevise]
  · rw [List.getElem?_eq_none (Nat.le_of_not_lt hi)]
    rfl

theorem Preserves.revise {h : History} {decisions : List (Option Revision)}
    (hlen : decisions.length = h.length)
    (hd : ∀ i r, decisions[i]? = some (some r) → h.Replaceable i) :
    Preserves h (h.revise decisions) where
  length_eq := by rw [History.length_revise, hlen, Nat.min_self]
  role_eq := History.map_revise Entry.role Entry.role_withContent hlen
  isDemo_eq := History.map_revise Entry.isDemo Entry.isDemo_withContent hlen
  getElem?_eq i hi := by
    rw [History.getElem?_revise]
    cases he : h[i]? with
    | none => rfl
    | some e =>
      have hlt : i < decisions.length := hlen ▸ (List.getElem?_eq_some_iff.mp he).1
      cases hdec : decisions[i] with
      | none => simp [List.getElem?_eq_getElem hlt, hdec, Entry.revise]
      | some r => exact absurd (hd i r (by rw [List.getElem?_eq_getElem hlt, hdec])) hi

end Compaction
