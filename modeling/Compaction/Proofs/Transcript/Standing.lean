import Compaction.Proofs.Transcript.Protected

/-!
# How an entry stands

* `History.outputs` : the observations of a transcript, the task statement first;
* `Standing` : what a policy may take into account about an entry besides the entry itself: how many
  observations stand before it, which ones stand behind it, and whether it is the final entry;
* `History.standingAt` : the standing of the entry at a position;
* `History.replaceable_iff_before` : the task statement is the observation with none before it;
* `History.standingAt_append` : what entries that are appended add to a standing;
* `History.getElem?_outputs_eq_some_iff` : the place of an observation among all observations is the
  number of those before it;
* `History.standingAt_outputs` : there it stands as it does in the transcript, except perhaps at the end.

No position occurs in a standing. This is why what follows from it holds for transcripts in which the
same observation stands at different positions.
-/

namespace Compaction

structure Standing where
  before : Nat
  /-- The observations behind it, oldest first. -/
  behind : History
  final : Bool

def Standing.append (s : Standing) (more : History) : Standing where
  before := s.before
  behind := s.behind ++ more.filter Entry.isObservation
  final := s.final && more.isEmpty

namespace History

def outputs (h : History) : History := h.filter Entry.isObservation

theorem length_outputs (h : History) : h.outputs.length = h.observationCount := by
  rw [outputs, observationCount, List.countP_eq_length_filter]

theorem mem_outputs {h : History} {e : Entry} : e ∈ h.outputs ↔ e ∈ h ∧ e.isObservation = true :=
  List.mem_filter

/-- Transcripts with the same observations at the same positions. -/
theorem outputs_congr {h₁ h₂ : History} (hobs : h₂.map Entry.isObservation = h₁.map Entry.isObservation)
    (heq : ∀ (i : Nat) (e : Entry), h₁[i]? = some e → e.isObservation = true → h₂[i]? = some e) :
    h₂.outputs = h₁.outputs := by
  induction h₁ generalizing h₂ with
  | nil =>
    rw [List.map_eq_nil_iff.mp hobs]
  | cons e₁ h₁ ih =>
    cases h₂ with
    | nil => cases hobs
    | cons e₂ h₂ =>
      rw [List.map_cons, List.map_cons, List.cons.injEq] at hobs
      have htail : outputs h₂ = outputs h₁ := ih hobs.2 fun i e he => heq (i + 1) e he
      rw [outputs, outputs] at htail ⊢
      by_cases hobs₁ : e₁.isObservation = true
      · obtain rfl : e₂ = e₁ := Option.some.inj (heq 0 e₁ rfl hobs₁)
        rw [List.filter_cons_of_pos hobs₁, List.filter_cons_of_pos hobs₁, htail]
      · rw [List.filter_cons_of_neg hobs₁, List.filter_cons_of_neg (hobs.1 ▸ hobs₁), htail]

def standingAt (h : History) (i : Nat) : Standing where
  before := observationCount (h.take i)
  behind := outputs (h.drop (i + 1))
  final := (h.drop (i + 1)).isEmpty

theorem before_congr {h₁ h₂ : History} (hobs : h₂.map Entry.isObservation = h₁.map Entry.isObservation)
    (i : Nat) : (h₂.standingAt i).before = (h₁.standingAt i).before := by
  rw [standingAt, standingAt, observationCount_eq_map, observationCount_eq_map, List.map_take,
    List.map_take, hobs]

theorem mem_behind_iff {h : History} {i : Nat} {e : Entry} :
    e ∈ (h.standingAt i).behind ↔ ∃ j, i < j ∧ h[j]? = some e ∧ e.isObservation = true := by
  rw [standingAt, mem_outputs, List.mem_iff_getElem?]
  constructor
  · rintro ⟨⟨k, hk⟩, hobs⟩
    rw [List.getElem?_drop] at hk
    exact ⟨i + 1 + k, by omega, hk, hobs⟩
  · rintro ⟨j, hij, hj, hobs⟩
    refine ⟨⟨j - (i + 1), ?_⟩, hobs⟩
    rw [List.getElem?_drop, Nat.add_sub_cancel' hij, hj]

/-- The task statement is the observation with none before it. -/
theorem replaceable_iff_before {h : History} {i : Nat} {e : Entry} (he : h[i]? = some e) :
    h.Replaceable i ↔ e.isObservation = true ∧ (h.standingAt i).before ≠ 0 := by
  rw [Replaceable, ne_eq, taskIndex?_eq_some_iff, he]
  constructor
  · rintro ⟨e', he', hobs, htask⟩
    obtain rfl := Option.some.inj he'
    exact ⟨hobs, fun hbefore => htask ⟨⟨e, rfl, hobs⟩, hbefore⟩⟩
  · rintro ⟨hobs, hbefore⟩
    exact ⟨e, rfl, hobs, fun htask => hbefore htask.2⟩

/-- Behind an observation every observation is replaceable. -/
theorem replaceable_of_lt {h : History} {i j : Nat} {e later : Entry} (hij : i < j)
    (he : h[i]? = some e) (hobs : e.isObservation = true) (hlater : h[j]? = some later)
    (hobs' : later.isObservation = true) : h.Replaceable j := by
  rw [replaceable_iff_before hlater]
  refine ⟨hobs', fun hbefore => ?_⟩
  have hmem : e ∈ h.take j := by
    obtain ⟨hi, rfl⟩ := List.getElem?_eq_some_iff.mp he
    have hj := (List.getElem?_eq_some_iff.mp hlater).1
    exact List.mem_take_iff_getElem.mpr ⟨i, by omega, rfl⟩
  exact List.countP_eq_zero.mp hbefore e hmem hobs

theorem standingAt_append {h : History} {i : Nat} (hi : i < h.length) (more : History) :
    standingAt (h ++ more) i = (h.standingAt i).append more := by
  have hfinal : (h.drop (i + 1) ++ more).isEmpty = ((h.drop (i + 1)).isEmpty && more.isEmpty) := by
    cases h.drop (i + 1) <;> rfl
  rw [standingAt, List.take_append_of_le_length (Nat.le_of_lt hi), List.drop_append_of_le_length hi,
    outputs, List.filter_append, hfinal]
  rfl

/-! ## Among the observations alone -/

theorem outputs_outputs (h : History) : outputs h.outputs = h.outputs := by
  rw [outputs, outputs, List.filter_filter]
  simp only [Bool.and_self]

theorem eq_append_of_getElem? {h : History} {i : Nat} {e : Entry} (he : h[i]? = some e) :
    h = h.take i ++ e :: h.drop (i + 1) := by
  obtain ⟨hi, rfl⟩ := List.getElem?_eq_some_iff.mp he
  rw [← List.drop_eq_getElem_cons hi, List.take_append_drop]

/-- An observation splits the observations into those before it and those behind it. -/
theorem outputs_eq_append {h : History} {i : Nat} {e : Entry} (he : h[i]? = some e)
    (hobs : e.isObservation = true) :
    h.outputs = outputs (h.take i) ++ e :: (h.standingAt i).behind := by
  calc h.outputs = outputs (h.take i ++ e :: h.drop (i + 1)) := by rw [← eq_append_of_getElem? he]
    _ = outputs (h.take i) ++ e :: (h.standingAt i).behind := by
        rw [outputs, List.filter_append, List.filter_cons_of_pos hobs]
        rfl

theorem length_outputs_take (h : History) (i : Nat) :
    (outputs (h.take i)).length = (h.standingAt i).before := length_outputs _

theorem observationCount_eq_add {h : History} {i : Nat} {e : Entry} (he : h[i]? = some e)
    (hobs : e.isObservation = true) :
    h.observationCount = (h.standingAt i).before + 1 + (h.standingAt i).behind.length := by
  rw [← length_outputs, outputs_eq_append he hobs, List.length_append, List.length_cons,
    length_outputs_take, Nat.add_assoc, Nat.add_comm 1]

/-- The place of an observation among all observations is the number of those before it. -/
theorem getElem?_outputs_eq_some_iff {h : History} {k : Nat} {e : Entry} :
    h.outputs[k]? = some e ↔
      ∃ i, h[i]? = some e ∧ e.isObservation = true ∧ (h.standingAt i).before = k := by
  constructor
  · intro hk
    have hlt : k < h.outputs.length := (List.getElem?_eq_some_iff.mp hk).1
    obtain ⟨earlier, rest, rfl, hearlier, hrest⟩ :=
      List.filter_eq_append_iff.mp (eq_append_of_getElem? hk)
    obtain ⟨others, later, rfl, hothers, hobs, -⟩ := List.filter_eq_cons_iff.mp hrest
    refine ⟨earlier.length + others.length, ?_, hobs, ?_⟩
    · rw [← List.append_assoc, ← List.length_append, List.getElem?_append_right (Nat.le_refl _),
        Nat.sub_self]
      rfl
    · -- Between the observations before it and this one there are only other entries.
      have hnone : others.filter Entry.isObservation = [] := List.filter_eq_nil_iff.mpr hothers
      rw [← length_outputs_take, ← List.append_assoc, ← List.length_append, List.take_left, outputs,
        List.filter_append, hearlier, hnone, List.append_nil]
      exact List.length_take_of_le (Nat.le_of_lt hlt)
  · rintro ⟨i, he, hobs, rfl⟩
    rw [outputs_eq_append he hobs, ← length_outputs_take, List.getElem?_append_right (Nat.le_refl _),
      Nat.sub_self]
    rfl

/-- Among the observations alone an observation stands as it does in the transcript. It is the final
entry there if no observation stands behind it. -/
theorem standingAt_outputs {h : History} {i : Nat} {e : Entry} (he : h[i]? = some e)
    (hobs : e.isObservation = true) :
    h.outputs.standingAt (h.standingAt i).before =
      { h.standingAt i with final := (h.standingAt i).behind.isEmpty } := by
  have hbefore : observationCount (outputs (h.take i)) = (h.standingAt i).before := by
    rw [← length_outputs, outputs_outputs, length_outputs_take]
  have hbehind : outputs (h.standingAt i).behind = (h.standingAt i).behind := outputs_outputs _
  have hlen := length_outputs_take h i
  have hdrop : List.drop ((h.standingAt i).before + 1)
      (outputs (h.take i) ++ e :: (h.standingAt i).behind) = (h.standingAt i).behind := by
    rw [← hlen, ← List.drop_drop, List.drop_left]
    rfl
  rw [outputs_eq_append he hobs, standingAt.eq_def (_ ++ _), hdrop, List.take_left' hlen, hbefore, hbehind]

end History

end Compaction
