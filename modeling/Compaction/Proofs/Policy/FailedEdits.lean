import Compaction.Proofs.Policy.Notices
import Compaction.Proofs.Processor.Growth

/-!
# Failed edits that are left

* `isFailedEdit_withContent_notice` : a notice is no failed edit;
* `FailedEdits.exempt_of_isFailedEdit_run` : a failed edit that is left is the exempt one;
* `FailedEdits.fate_congr` : the policy looks at no other entries, only at whether some stand before and behind;
* `FailedEdits.fate_append_fate` : what a pass has made of an entry, a pass over a longer transcript makes into
  what it makes of the entry itself;
* `FailedEdits.recompaction_strips_alike` : so it does not matter when failed edits are replaced.

The entry that was exempt is not the final one any more when others are appended. It is still as it was, and
goes the way of all other failed edits.
-/

namespace Compaction

variable {h : History} {i : Nat} {e : Entry}

theorem isFailedEdit_iff :
    isFailedEdit e = true ↔ e.isObservation = true ∧ failedEditMarker.toList <:+: e.content.toList := by
  rw [isFailedEdit, Bool.and_eq_true, Text.occursIn_iff]

theorem isFailedEdit_withContent_notice (e : Entry) (notice : Notice) :
    isFailedEdit (e.withContent notice.text) = false := by
  rw [Bool.eq_false_iff]
  intro hf
  exact not_infix_notice notice (isFailedEdit_iff.mp hf).2

namespace FailedEdits

variable {p : FailedEdits} {s s' : Standing}

theorem exempt_of_isFailedEdit_run (he : ((Processor.failedEdits p).run h)[i]? = some e) (hr : h.Replaceable i)
    (hf : isFailedEdit e = true) : p.keepLast = true ∧ i + 1 = h.length := by
  obtain ⟨e₀, he₀, -⟩ := id hr
  rw [p.getElem?_run_of_replaceable he₀ hr, Option.some.injEq, replacement?] at he
  by_cases hkept : (p.keepLast && (h.standingAt i).final || !isFailedEdit e₀) = true
  · rw [if_pos hkept] at he
    obtain rfl : e₀ = e := he
    simp only [hf, Bool.not_true, Bool.or_false, Bool.and_eq_true, History.standingAt, List.isEmpty_iff,
      List.drop_eq_nil_iff] at hkept
    have hi := (List.getElem?_eq_some_iff.mp he₀).1
    exact ⟨hkept.1, by omega⟩
  · rw [if_neg hkept] at he
    obtain rfl : e₀.withContent p.notice.text = e := he
    rw [isFailedEdit_withContent_notice] at hf
    cases hf

/-! ## Two passes over an entry -/

theorem fate_congr (hbefore : s'.before = s.before) (hfinal : s'.final = s.final) (e : Entry) :
    (Processor.failedEdits p).fate s' e = (Processor.failedEdits p).fate s e := by
  simp only [Processor.fate, Processor.replacement?, replacement?, hbefore, hfinal]

theorem fate_of_not_isFailedEdit (hf : isFailedEdit e = false) (s : Standing) :
    (Processor.failedEdits p).fate s e = e := by
  simp [Processor.fate, Processor.replacement?, replacement?, hf, Entry.rewrite]

theorem fate_eq_or (s : Standing) (e : Entry) :
    (Processor.failedEdits p).fate s e = e ∨
      (Processor.failedEdits p).fate s e = e.withContent p.notice.text := by
  rw [Processor.fate, Processor.replacement?, replacement?]
  split
  · split
    · exact Or.inl rfl
    · exact Or.inr rfl
  · exact Or.inl rfl

theorem fate_append_fate (s : Standing) (more : History) (e : Entry) :
    (Processor.failedEdits p).fate (s.append more) ((Processor.failedEdits p).fate s e) =
      (Processor.failedEdits p).fate (s.append more) e := by
  by_cases hkept : (Processor.failedEdits p).fate s e = e
  · rw [hkept]
  · have hnotice := (fate_eq_or s e).resolve_left hkept
    rw [Processor.fate_append hkept, hnotice]
    exact fate_of_not_isFailedEdit (isFailedEdit_withContent_notice e p.notice) _

/-- A failed edit is replaced as soon as an entry stands behind it. -/
theorem fate_append_of_isFailedEdit (hf : isFailedEdit e = true) (hbefore : s.before ≠ 0) {more : History}
    (hmore : more ≠ []) : (Processor.failedEdits p).fate (s.append more) e = e.withContent p.notice.text := by
  have hobs := (isFailedEdit_iff.mp hf).1
  have hfinal : (s.append more).final = false := by
    rw [Standing.append, List.isEmpty_eq_false_iff.mpr hmore, Bool.and_false]
  have hbefore' : ((s.append more).before != 0) = true := bne_iff_ne.mpr hbefore
  rw [Processor.fate, hobs, hbefore', Bool.and_self, if_pos rfl, Processor.replacement?, replacement?, hfinal, hf,
    Bool.and_false]
  rfl

/-! ## Two passes over a transcript -/

theorem getElem?_run (p : FailedEdits) (h : History) (i : Nat) :
    ((Processor.failedEdits p).run h)[i]? = h[i]?.map ((Processor.failedEdits p).fate (h.standingAt i)) :=
  Processor.getElem?_run (fun _ _ => Processor.noConfusion) h i

/-- After a pass every entry stands as it did, as far as the policy looks. -/
theorem fate_of_preserves {h' : History} (hp : Preserves h h') (i : Nat) :
    (Processor.failedEdits p).fate (h'.standingAt i) = (Processor.failedEdits p).fate (h.standingAt i) := by
  funext e
  refine fate_congr (History.before_congr hp.isObservation_eq i) ?_ e
  show (h'.drop (i + 1)).isEmpty = (h.drop (i + 1)).isEmpty
  rw [Bool.eq_iff_iff, List.isEmpty_iff, List.isEmpty_iff, List.drop_eq_nil_iff, List.drop_eq_nil_iff, hp.length_eq]

theorem getElem?_run_run_append (p : FailedEdits) (h more : History) (i : Nat) :
    ((Processor.failedEdits p).run ((Processor.failedEdits p).run h ++ more))[i]? =
      ((Processor.failedEdits p).run (h ++ more))[i]? := by
  have hp := (Processor.failedEdits p).preserves_run h
  rw [getElem?_run, getElem?_run, fate_of_preserves (hp.append more)]
  by_cases hi : i < h.length
  · rw [List.getElem?_append_left (hp.length_eq ▸ hi), List.getElem?_append_left hi, getElem?_run, Option.map_map,
      History.standingAt_append hi]
    congr 1
    funext e
    exact fate_append_fate (h.standingAt i) more e
  · have hle : h.length ≤ i := Nat.le_of_not_lt hi
    rw [List.getElem?_append_right hle, List.getElem?_append_right (hp.length_eq ▸ hle), hp.length_eq]

/-- **It does not matter to failed edits when they are replaced.** A transcript that has been compacted, with
entries appended, is compacted to what the whole transcript is compacted to, and a second pass changes nothing. A
failed edit that was exempt at the end of the transcript gives way to the notice once there is an entry behind it,
whether or not there was a pass before. -/
theorem recompaction_strips_alike (p : FailedEdits) (h more : History) :
    (Processor.failedEdits p).run ((Processor.failedEdits p).run h ++ more) =
        (Processor.failedEdits p).run (h ++ more) ∧
      (Processor.failedEdits p).run ((Processor.failedEdits p).run h) = (Processor.failedEdits p).run h ∧
      ∀ i e, h[i]? = some e → h.Replaceable i → isFailedEdit e = true → more ≠ [] →
        ((Processor.failedEdits p).run ((Processor.failedEdits p).run h ++ more))[i]? =
            some (e.withContent p.notice.text) ∧
          ((Processor.failedEdits p).run (h ++ more))[i]? = some (e.withContent p.notice.text) := by
  have hrun : ∀ more, (Processor.failedEdits p).run ((Processor.failedEdits p).run h ++ more) =
      (Processor.failedEdits p).run (h ++ more) :=
    fun more => List.ext_getElem? (getElem?_run_run_append p h more)
  refine ⟨hrun more, ?_, ?_⟩
  · have hempty := hrun []
    rwa [List.append_nil, List.append_nil] at hempty
  · intro i e he hr hf hmore
    have hi := (List.getElem?_eq_some_iff.mp he).1
    have hbefore := ((History.replaceable_iff_before he).mp hr).2
    rw [hrun more, and_self, getElem?_run, List.getElem?_append_left hi, he, Option.map_some,
      History.standingAt_append hi, fate_append_of_isFailedEdit hf hbefore hmore]

def lastFailed : History := [
  { role := .user, content := "task" },
  { role := .user, content := "Your proposed edit has introduced new syntax error(s)." },
  { role := .user, content := "Your proposed edit has introduced new syntax error(s)." }]

/-- The first pass leaves the final entry alone, and the second one replaces it. -/
theorem recompaction_strips_alike_lastFailed :
    lastFailed.Replaceable 2 ∧
    ((Processor.failedEdits {}).run lastFailed)[2]? = lastFailed[2]? ∧
    ((Processor.failedEdits {}).run ((Processor.failedEdits {}).run lastFailed ++
        [{ role := .assistant, content := "edit 1:1" }]))[2]? =
      some { role := .user, content := "Output of failed edit omitted." } := by
  have hr : lastFailed.Replaceable 2 := ⟨_, rfl, rfl, by decide⟩
  have hlast := (recompaction_strips_alike {} lastFailed [{ role := .assistant, content := "edit 1:1" }]).2.2
    2 _ rfl hr (by decide) (List.cons_ne_nil _ _)
  exact ⟨hr, by decide, hlast.1⟩

end FailedEdits

end Compaction
