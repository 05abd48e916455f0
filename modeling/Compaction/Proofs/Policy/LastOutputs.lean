import Compaction.Proofs.Policy.Bounds
import Compaction.Proofs.Policy.Replacement
import Mathlib.Data.List.DropRight

/-!
# The window of the last outputs

* `History.length_behind` : the observations behind an entry are as many as the positions at which they stand;
* `LastOutputs.getElem?_run_of_omitted`, `LastOutputs.getElem?_run_of_kept` : an observation is omitted if at least
  `n` stand behind it, and nothing else is;
* `LastOutputs.rtake_outputs_run` : so the last `n` observations stay;
* `LastOutputs.run_keeps_window` : both, with the notice spelled out;
* `LastOutputs.Omits`, `LastOutputs.omits_iff` : the decisions of the policy, and what they depend on;
* `LastOutputs.Omits.getElem?_run_run_append`, `LastOutputs.getElem?_run_run_append_of_not_omits` : what a later pass
  does to an observation that has been omitted, and to the others;
* `LastOutputs.recompaction_forgets_line_counts` : so the line counts are all that a later pass loses;
* `LastOutputs.bounds_agree_with_window` : the policy on long outputs does the same if no length is short.

The policy numbers the observations from the first one, and the rule counts those that follow. A number and a count
add up to the number of all observations (`History.observationCount_eq_add`), and this is why a window that reaches
back to the task statement, or beyond it, is no special case. Neither number depends on any content, and so the window
of a second pass is that of the first one, moved on by what has been appended.
-/

namespace Compaction

variable {p : LastOutputs} {h : History} {i : Nat} {e : Entry}

theorem History.length_behind (h : History) (i : Nat) :
    (h.standingAt i).behind.length = h.observationsBehind i := by
  rw [← LongOutputs.observations_drop, LongOutputs.observations_drop_zipIdx]

theorem History.replaceable_iff_isObservationAt :
    h.Replaceable i ↔ h.IsObservationAt i ∧ h.taskIndex? ≠ some i := by
  unfold Replaceable IsObservationAt
  simp only [← and_assoc, exists_and_right]

namespace LastOutputs

theorem getElem?_run_of_omitted (he : h[i]? = some e) (hr : h.Replaceable i)
    (hbehind : p.n ≤ h.observationsBehind i) :
    ((Processor.lastOutputs p).run h)[i]? = some (e.withContent (omittedNotice e)) := by
  rw [p.getElem?_run_of_replaceable he hr, replacement?, History.length_behind, if_neg (Nat.not_lt_of_le hbehind)]
  rfl

theorem getElem?_run_of_kept (hbehind : h.Replaceable i → h.observationsBehind i < p.n) :
    ((Processor.lastOutputs p).run h)[i]? = h[i]? := by
  by_cases hr : h.Replaceable i
  · obtain ⟨e, he, -⟩ := id hr
    rw [p.getElem?_run_of_replaceable he hr, replacement?, History.length_behind, if_pos (hbehind hr), he]
    rfl
  · exact ((Processor.lastOutputs p).preserves_run h).getElem?_eq i hr

/-- An observation among the last `n` has fewer than `n` behind it. -/
theorem rtake_outputs_run (p : LastOutputs) (h : History) :
    (History.outputs ((Processor.lastOutputs p).run h)).rtake (min p.n h.observationCount) =
      h.outputs.rtake (min p.n h.observationCount) := by
  have hpreserves := (Processor.lastOutputs p).preserves_run h
  have hlen : (History.outputs ((Processor.lastOutputs p).run h)).length = h.outputs.length := by
    rw [History.length_outputs, History.length_outputs, hpreserves.observationCount_eq]
  unfold List.rtake
  rw [hlen, History.length_outputs]
  apply List.ext_getElem?
  intro k
  rw [List.getElem?_drop, List.getElem?_drop]
  cases hk : h.outputs[h.observationCount - min p.n h.observationCount + k]? with
  | none => exact List.getElem?_eq_none (hlen ▸ List.getElem?_eq_none_iff.mp hk)
  | some e =>
    obtain ⟨i, he, hobs, hbefore⟩ := History.getElem?_outputs_eq_some_iff.mp hk
    have hcount := History.observationCount_eq_add he hobs
    rw [History.length_behind] at hcount
    have hkept : ((Processor.lastOutputs p).run h)[i]? = h[i]? := getElem?_run_of_kept fun _ => by omega
    rw [History.getElem?_outputs_eq_some_iff]
    exact ⟨i, hkept.trans he, hobs, (History.before_congr hpreserves.isObservation_eq i).trans hbefore⟩

/-- **What becomes of each entry.** An observation other than the task statement is omitted if at least `n`
observations stand behind it, and every other entry stays. In particular the last `n` observations stay, or all of
them if there are no more. -/
theorem run_keeps_window (p : LastOutputs) (h : History) :
    (∀ i, ((Processor.lastOutputs p).run h)[i]? = h[i]?.map fun e =>
      if h.IsObservationAt i ∧ h.taskIndex? ≠ some i ∧ p.n ≤ h.observationsBehind i then
        e.withContent ("Old output omitted (" ++ toString e.lineCount ++ " lines)")
      else e) ∧
    (History.outputs ((Processor.lastOutputs p).run h)).rtake (min p.n h.observationCount) =
      h.outputs.rtake (min p.n h.observationCount) := by
  refine ⟨fun i => ?_, rtake_outputs_run p h⟩
  by_cases homit : h.IsObservationAt i ∧ h.taskIndex? ≠ some i ∧ p.n ≤ h.observationsBehind i
  · obtain ⟨e, he, hobs⟩ := homit.1
    have hr : h.Replaceable i := History.replaceable_iff_isObservationAt.mpr ⟨homit.1, homit.2.1⟩
    rw [getElem?_run_of_omitted he hr homit.2.2, he, Option.map_some, if_pos homit]
    rfl
  · have hkept : h.Replaceable i → h.observationsBehind i < p.n := by
      intro hr
      obtain ⟨hobs, htask⟩ := History.replaceable_iff_isObservationAt.mp hr
      exact Nat.lt_of_not_le fun hbehind => homit ⟨hobs, htask, hbehind⟩
    simp only [getElem?_run_of_kept hkept, if_neg homit, Option.map_id']

/-- The window reaches over what is no observation, and the task statement need not be in it. -/
example :
    ((Processor.lastOutputs { n := 2, pos := by decide }).run [
        { role := .system, content := "rules" },
        { role := .user, content := "task" },
        { role := .user, content := "first\noutput" },
        { role := .user, content := "a demonstration", isDemo := true },
        { role := .user, content := "second output" },
        { role := .assistant, content := "answer" },
        { role := .user, content := "third output" }]).map Entry.content =
      ["rules", "task", "Old output omitted (2 lines)", "a demonstration", "second output", "answer",
        "third output"] := by
  decide

/-! ## Compacting again -/

def Omits (p : LastOutputs) (h : History) (i : Nat) : Prop := ∃ r, (p.revisions h)[i]? = some (some r)

instance (p : LastOutputs) (h : History) (i : Nat) : Decidable (p.Omits h i) :=
  decidable_of_iff ((p.revisions h)[i]?.join.isSome = true) <| by
    rw [Option.isSome_iff_exists]
    simp only [Option.join_eq_some_iff]
    rfl

theorem omits_iff : p.Omits h i ↔ h.Replaceable i ∧ p.n ≤ h.observationsBehind i := by
  rw [← History.length_behind]
  constructor
  · rintro ⟨r, hr⟩
    have hreplaceable := replaceable_of_revisions hr
    obtain ⟨e, he, hobs, -⟩ := id hreplaceable
    refine ⟨hreplaceable, Nat.le_of_not_lt fun hlt => ?_⟩
    rw [getElem?_revisions, he, Option.map_some, hobs, p.keeps_rankAt he hreplaceable, decide_eq_true hlt] at hr
    cases hr
  · rintro ⟨hreplaceable, hbehind⟩
    obtain ⟨e, he, hobs, -⟩ := id hreplaceable
    refine ⟨⟨omittedNotice e, .outputOmitted (h.rankAt i) i⟩, ?_⟩
    rw [getElem?_revisions, he, Option.map_some, hobs, p.keeps_rankAt he hreplaceable,
      decide_eq_false (Nat.not_lt_of_le hbehind)]
    rfl

theorem Omits.getElem?_run (ho : p.Omits h i) (he : h[i]? = some e) :
    ((Processor.lastOutputs p).run h)[i]? = some (e.withContent (omittedNotice e)) :=
  getElem?_run_of_omitted he (omits_iff.mp ho).1 (omits_iff.mp ho).2

theorem getElem?_run_of_not_omits (hkept : ¬ p.Omits h i) : ((Processor.lastOutputs p).run h)[i]? = h[i]? :=
  getElem?_run_of_kept fun hr => Nat.lt_of_not_le fun hbehind => hkept (omits_iff.mpr ⟨hr, hbehind⟩)

theorem omits_congr {h' : History} (hp : Preserves h h') (i : Nat) : p.Omits h' i ↔ p.Omits h i := by
  rw [omits_iff, omits_iff, hp.replaceable_iff, hp.observationsBehind_eq]

theorem Omits.append (ho : p.Omits h i) (more : History) : p.Omits (h ++ more) i := by
  rw [omits_iff] at ho ⊢
  obtain ⟨hr, hbehind⟩ := ho
  obtain ⟨e, he, -⟩ := id hr
  have hi : i < h.length := (List.getElem?_eq_some_iff.mp he).1
  have hgrows : h.observationsBehind i ≤ History.observationsBehind (h ++ more) i := by
    rw [← History.length_behind, ← History.length_behind, History.standingAt_append hi, Standing.append,
      List.length_append]
    exact Nat.le_add_right _ _
  exact ⟨(History.replaceable_append_iff hi more).mpr hr, Nat.le_trans hbehind hgrows⟩

theorem Omits.getElem?_run_run_append (ho : p.Omits h i) (he : h[i]? = some e) (more : History) :
    ((Processor.lastOutputs p).run ((Processor.lastOutputs p).run h ++ more))[i]? =
      some (e.withContent "Old output omitted (1 lines)") := by
  have hpreserves := (Processor.lastOutputs p).preserves_run h
  have hi : i < ((Processor.lastOutputs p).run h).length :=
    hpreserves.length_eq ▸ (List.getElem?_eq_some_iff.mp he).1
  -- The later pass finds the notice, which has one line, and omits that.
  have hnotice : ((Processor.lastOutputs p).run h ++ more)[i]? = some (e.withContent (omittedNotice e)) := by
    rw [List.getElem?_append_left hi, ho.getElem?_run he]
  have hagain : p.Omits ((Processor.lastOutputs p).run h ++ more) i :=
    (omits_congr (hpreserves.append more) i).mpr (ho.append more)
  rw [hagain.getElem?_run hnotice, omittedNotice_of_omitted, Entry.withContent_withContent]

theorem getElem?_run_run_append_of_not_omits (hkept : ¬ p.Omits h i) (more : History) :
    ((Processor.lastOutputs p).run ((Processor.lastOutputs p).run h ++ more))[i]? =
      ((Processor.lastOutputs p).run (h ++ more))[i]? := by
  have hpreserves := (Processor.lastOutputs p).preserves_run h
  have hentry := hpreserves.getElem?_append (getElem?_run_of_not_omits hkept) more
  have hsame : p.Omits ((Processor.lastOutputs p).run h ++ more) i ↔ p.Omits (h ++ more) i :=
    omits_congr (hpreserves.append more) i
  by_cases ho : p.Omits (h ++ more) i
  · obtain ⟨e, he, -⟩ := (omits_iff.mp ho).1
    rw [(hsame.mpr ho).getElem?_run (hentry.trans he), ho.getElem?_run he]
  · rw [getElem?_run_of_not_omits (mt hsame.mp ho), getElem?_run_of_not_omits ho, hentry]

theorem Omits.getElem?_run_run_eq_iff (ho : p.Omits h i) (he : h[i]? = some e) :
    ((Processor.lastOutputs p).run ((Processor.lastOutputs p).run h))[i]? =
      ((Processor.lastOutputs p).run h)[i]? ↔ e.lineCount = 1 := by
  have hagain := ho.getElem?_run_run_append he []
  rw [List.append_nil] at hagain
  rw [hagain, ho.getElem?_run he, Option.some.injEq, ← omittedNotice_of_omitted e e]
  constructor
  · intro hentry
    have hnotice := omittedNotice_eq_iff.mp (congrArg Entry.content hentry)
    rw [← hnotice, lineCount_omittedNotice]
  · intro hlines
    rw [omittedNotice_eq_iff.mpr ((lineCount_omittedNotice e e).trans hlines.symm)]

theorem run_run_eq_iff : (Processor.lastOutputs p).run ((Processor.lastOutputs p).run h) =
      (Processor.lastOutputs p).run h ↔ ∀ i e, h[i]? = some e → p.Omits h i → e.lineCount = 1 := by
  constructor
  · intro hrun i e he ho
    rw [← ho.getElem?_run_run_eq_iff he, hrun]
  · intro hlines
    apply List.ext_getElem?
    intro i
    by_cases ho : p.Omits h i
    · obtain ⟨e, he, -⟩ := (omits_iff.mp ho).1
      exact (ho.getElem?_run_run_eq_iff he).mpr (hlines i e he ho)
    · have hagain := getElem?_run_run_append_of_not_omits ho []
      rwa [List.append_nil, List.append_nil] at hagain

/-- **What a second pass loses.** A transcript that has been compacted, with entries appended, is compacted to what
the whole transcript is compacted to, except that the notices of the observations omitted so far now all speak of one
line. Hence a second pass changes nothing if and only if they spoke of one line before, and a third pass never
changes anything. -/
theorem recompaction_forgets_line_counts (p : LastOutputs) (h : History) :
    (∀ (more : History) (i : Nat),
      ((Processor.lastOutputs p).run ((Processor.lastOutputs p).run h ++ more))[i]? =
        if p.Omits h i then h[i]?.map fun e => e.withContent "Old output omitted (1 lines)"
        else ((Processor.lastOutputs p).run (h ++ more))[i]?) ∧
    ((Processor.lastOutputs p).run ((Processor.lastOutputs p).run h) = (Processor.lastOutputs p).run h ↔
      ∀ i e, h[i]? = some e → p.Omits h i → e.lineCount = 1) ∧
    (Processor.lastOutputs p).run ((Processor.lastOutputs p).run ((Processor.lastOutputs p).run h)) =
      (Processor.lastOutputs p).run ((Processor.lastOutputs p).run h) := by
  refine ⟨fun more i => ?_, run_run_eq_iff, ?_⟩
  · by_cases ho : p.Omits h i
    · obtain ⟨e, he, -⟩ := (omits_iff.mp ho).1
      rw [if_pos ho, ho.getElem?_run_run_append he, he, Option.map_some]
    · rw [if_neg ho, getElem?_run_run_append_of_not_omits ho]
  · -- What the second pass omits are the notices of the first one.
    rw [run_run_eq_iff]
    intro i e' he' ho'
    have ho : p.Omits h i := (omits_congr ((Processor.lastOutputs p).preserves_run h) i).mp ho'
    obtain ⟨e, he, -⟩ := (omits_iff.mp ho).1
    obtain rfl := Option.some.inj ((ho.getElem?_run he).symm.trans he')
    exact lineCount_omittedNotice e e

/-- The lines of the first output are counted once, and the lines of its notice from then on. -/
example :
    ((Processor.lastOutputs { n := 1, pos := by decide }).run [
        { role := .user, content := "task" },
        { role := .user, content := "first\noutput" },
        { role := .user, content := "second output" }]).map Entry.content =
      ["task", "Old output omitted (2 lines)", "second output"] ∧
    ((Processor.lastOutputs { n := 1, pos := by decide }).run [
        { role := .user, content := "task" },
        { role := .user, content := "Old output omitted (2 lines)" },
        { role := .user, content := "second output" },
        { role := .user, content := "third\noutput" }]).map Entry.content =
      ["task", "Old output omitted (1 lines)", "Old output omitted (1 lines)", "third\noutput"] := by
  decide

/-! ## Without a threshold -/

variable {q : LongOutputs}

theorem replacement?_eq_of_isLong {s : Standing} (hn : q.n = p.n) (hage : p.n - 1 ≤ q.maxAge)
    (hlong : q.isLong e = true) (hbehind : ∀ later ∈ s.behind, q.isLong later = true) :
    q.replacement? s e = p.replacement? s e := by
  have hcount : s.behind.countP q.isLong = s.behind.length := List.countP_eq_length.mpr hbehind
  -- Both bounds now count the same observations, and the one on their number is reached first.
  have hdrop : (p.n ≤ s.behind.length ∨ q.maxAge < s.behind.length) ↔ ¬ s.behind.length < p.n := by
    have hpos := p.pos
    omega
  rw [LongOutputs.replacement?, replacement?, hlong, hcount, hn, Bool.true_and, ← Bool.decide_or]
  simp only [decide_eq_true_eq, hdrop, ite_not]

theorem isLong_of_content_ne_empty (hthreshold : q.threshold = 0) (hne : e.content ≠ "") : q.isLong e = true := by
  rw [LongOutputs.isLong, hthreshold, decide_eq_true_eq, Nat.pos_iff_ne_zero, Entry.charLen, ne_eq,
    String.length_eq_zero_iff]
  exact hne

/-- **Bounds without a threshold are a window.** If no observation is empty and the age allows as much as the count,
then the policy on long outputs keeps the last `n` observations, whichever way its walk goes. -/
theorem bounds_agree_with_window (hn : q.n = p.n) (hage : p.n - 1 ≤ q.maxAge) (hthreshold : q.threshold = 0)
    (h : History) (hne : ∀ i e, h[i]? = some e → e.isObservation = true → h.taskIndex? ≠ some i → e.content ≠ "") :
    (Processor.longOutputs q).run h = (Processor.lastOutputs p).run h := by
  apply ((Processor.longOutputs q).preserves_run h).eq_of_replaceable ((Processor.lastOutputs p).preserves_run h)
  intro i e he hr
  obtain ⟨e', he', hobs, htask⟩ := id hr
  obtain rfl := Option.some.inj (he.symm.trans he')
  have hlong : q.isLong e = true := isLong_of_content_ne_empty hthreshold (hne i e he hobs htask)
  have hbehind : ∀ later ∈ (h.standingAt i).behind, q.isLong later = true := by
    intro later hmem
    obtain ⟨j, hij, hj, hobs'⟩ := History.mem_behind_iff.mp hmem
    obtain ⟨-, -, -, htask'⟩ := History.replaceable_of_lt hij he hobs hj hobs'
    exact isLong_of_content_ne_empty hthreshold (hne j later hj hobs' htask')
  rw [q.getElem?_run_of_replaceable he hr, p.getElem?_run_of_replaceable he hr,
    replacement?_eq_of_isLong hn hage hlong hbehind]

/-- Observations of all sizes, the task statement being empty, and a demonstration between them. -/
def ofAllSizes : History := [
  { role := .user, content := "" },
  { role := .user, content := "a first output\nof two lines" },
  { role := .assistant, content := "" },
  { role := .user, content := "2" },
  { role := .user, content := "", isDemo := true },
  { role := .user, content := "the third output" }]

/-- An age of 1 is just enough for two outputs. -/
theorem bounds_agree_with_window_ofAllSizes :
    (∀ i e, ofAllSizes[i]? = some e → e.isObservation = true → ofAllSizes.taskIndex? ≠ some i → e.content ≠ "") ∧
    (Processor.longOutputs { n := 2, maxAge := 1, threshold := 0, framing := .reverse }).run ofAllSizes =
      (Processor.lastOutputs { n := 2, pos := by decide }).run ofAllSizes ∧
    ((Processor.lastOutputs { n := 2, pos := by decide }).run ofAllSizes).map Entry.content =
      ["", "Old output omitted (2 lines)", "", "2", "", "the third output"] := by
  have hall : ∀ i < ofAllSizes.length, ∀ e ∈ ofAllSizes[i]?,
      e.isObservation = true → ofAllSizes.taskIndex? ≠ some i → e.content ≠ "" := by
    decide
  have hne : ∀ i e, ofAllSizes[i]? = some e → e.isObservation = true → ofAllSizes.taskIndex? ≠ some i →
      e.content ≠ "" := fun i e he => hall i (List.getElem?_eq_some_iff.mp he).1 e he
  refine ⟨hne, ?_, by decide⟩
  exact bounds_agree_with_window (p := { n := 2, pos := by decide })
    (q := { n := 2, maxAge := 1, threshold := 0, framing := .reverse }) rfl (by decide) rfl ofAllSizes hne

end LastOutputs

end Compaction
