import Compaction.Proofs.Policy.Notices
import Compaction.Proofs.Policy.Replacement

/-!
# Passes over long outputs

* `LongOutputs.NoRoom p later` : the observations `later` leave no room for a long one before them;
* `LongOutputs.after` : what becomes of an observation in front of others; `LongOutputs.thinned` : what becomes of
  the observations at the end of a transcript (`LongOutputs.behind_run`);
* `LongOutputs.thinned_eq_self`, `LongOutputs.NoRoom.thinned` : where there is room nothing changes, and where there
  is none there is none afterwards;
* `LongOutputs.stacked_bounds_intersect` : two passes in a row are one with the smaller bounds, provided that no
  notice is long;
* `LongOutputs.third_pass_changes_nothing` : whether notices are long or not, a third pass finds nothing to do.

A pass sees the observations behind an entry only as a number of long ones and a number of all of them. The second
number never changes. The first one does, because a notice may be short, but not where it matters: the outputs that
are kept are the newest, and if they are fewer than `n`, then it is the age that has dropped the others.
-/

namespace Compaction.LongOutputs

variable {p q : LongOutputs} {e : Entry} {later : History}

/-! ## Observations at the end of a transcript -/

/-- The observations `later` leave no room for a long one before them. -/
def NoRoom (p : LongOutputs) (later : History) : Prop :=
  p.n ≤ later.countP p.isLong ∨ p.maxAge < later.length

instance (p : LongOutputs) (later : History) : Decidable (p.NoRoom later) := instDecidableOr

/-- What becomes of an observation in front of the observations `later`. -/
def after (p : LongOutputs) (later : History) (e : Entry) : Entry :=
  if p.isLong e = true ∧ p.NoRoom later then e.withContent (omittedNotice e) else e

/-- What becomes of the observations at the end of a transcript. -/
def thinned (p : LongOutputs) : History → History
  | [] => []
  | e :: later => p.after later e :: thinned p later

theorem after_of_not_isLong (hshort : ¬ p.isLong e = true) (later : History) : p.after later e = e := by
  unfold after
  rw [if_neg fun h => hshort h.1]

theorem after_of_not_noRoom (hroom : ¬ p.NoRoom later) (e : Entry) : p.after later e = e := by
  unfold after
  rw [if_neg fun h => hroom h.2]

theorem after_of_noRoom (hlong : p.isLong e = true) (hroom : p.NoRoom later) :
    p.after later e = e.withContent (omittedNotice e) := by
  unfold after
  rw [if_pos ⟨hlong, hroom⟩]

@[simp] theorem isObservation_after (p : LongOutputs) (later : History) (e : Entry) :
    (p.after later e).isObservation = e.isObservation := by
  unfold after
  split <;> rfl

theorem length_thinned (p : LongOutputs) (l : History) : (p.thinned l).length = l.length := by
  induction l with
  | nil => rfl
  | cons e later ih => simp [thinned, ih]

theorem thinned_eq_self {l : History} (hcount : l.countP p.isLong ≤ p.n) (hage : l.length ≤ p.maxAge + 1) :
    p.thinned l = l := by
  induction l with
  | nil => rfl
  | cons e later ih =>
    rw [List.countP_cons] at hcount
    rw [List.length_cons] at hage
    rw [thinned, ih (by omega) (by omega)]
    by_cases hlong : p.isLong e = true
    · rw [if_pos hlong] at hcount
      rw [after_of_not_noRoom]
      unfold NoRoom
      omega
    · rw [after_of_not_isLong hlong]

theorem thinned_of_not_noRoom (hroom : ¬ p.NoRoom later) : p.thinned later = later := by
  unfold NoRoom at hroom
  apply thinned_eq_self <;> omega

/-- What is kept is enough to use up the room again. -/
theorem NoRoom.thinned (hroom : p.NoRoom later) : p.NoRoom (p.thinned later) := by
  unfold NoRoom
  rw [length_thinned]
  by_cases hage : p.maxAge < later.length
  · exact Or.inr hage
  · left
    have hcount : p.n ≤ later.countP p.isLong := by
      unfold NoRoom at hroom
      omega
    clear hroom
    induction later with
    | nil => exact hcount
    | cons e later ih =>
      rw [List.length_cons] at hage
      by_cases hmany : p.n ≤ later.countP p.isLong
      · rw [LongOutputs.thinned, List.countP_cons]
        exact Nat.le_add_right_of_le (ih (by omega) hmany)
      · -- Here the count is reached, so that this output and all long ones behind it are kept.
        have hkept : p.thinned (e :: later) = e :: later := by
          apply thinned_eq_self
          · rw [List.countP_cons]
            split <;> omega
          · rw [List.length_cons]
            omega
        rw [hkept]
        exact hcount

/-! ## A pass over a transcript -/

variable {h : History} {i : Nat}

theorem rewrite_replacement? (p : LongOutputs) (s : Standing) (e : Entry) :
    e.rewrite (p.replacement? s e) = p.after s.behind e := by
  have hdrop : (p.isLong e && (decide (p.n ≤ s.behind.countP p.isLong) ||
      decide (p.maxAge < s.behind.length))) = true ↔ p.isLong e = true ∧ p.NoRoom s.behind := by
    simp [NoRoom]
  simp only [replacement?, after, hdrop]
  split <;> rfl

theorem getElem?_run_eq_after (p : LongOutputs) (he : h[i]? = some e) (hr : h.Replaceable i) :
    ((Processor.longOutputs p).run h)[i]? = some (p.after (h.standingAt i).behind e) := by
  rw [p.getElem?_run_of_replaceable he hr, rewrite_replacement?]

/-- Behind an observation no task statement is left. The induction goes from the end of the transcript back to
that observation. -/
theorem outputs_drop_run (p : LongOutputs) (he : h[i]? = some e) (hobs : e.isObservation = true) {k : Nat}
    (hik : i < k) :
    History.outputs (((Processor.longOutputs p).run h).drop k) = p.thinned (History.outputs (h.drop k)) := by
  have hpreserves := (Processor.longOutputs p).preserves_run h
  have hlen := hpreserves.length_eq
  induction hn : h.length - k generalizing k with
  | zero =>
    rw [List.drop_eq_nil_of_le (by omega), List.drop_eq_nil_of_le (by omega)]
    rfl
  | succ n ih =>
    have hk : k < h.length := by omega
    have hk' : k < ((Processor.longOutputs p).run h).length := by omega
    have hlater : h[k]? = some h[k] := List.getElem?_eq_getElem hk
    have hrest := ih (k := k + 1) (by omega) (by omega)
    unfold History.outputs at hrest ⊢
    rw [List.drop_eq_getElem_cons hk, List.drop_eq_getElem_cons hk']
    by_cases hobs' : h[k].isObservation = true
    · have hrun : ((Processor.longOutputs p).run h)[k] = p.after (h.standingAt k).behind h[k] := by
        have hr := History.replaceable_of_lt hik he hobs hlater hobs'
        rw [← Option.some.injEq, ← List.getElem?_eq_getElem hk', p.getElem?_run_eq_after hlater hr]
      rw [hrun, List.filter_cons_of_pos ((isObservation_after ..).trans hobs'), List.filter_cons_of_pos hobs', hrest]
      rfl
    · have hrun : ((Processor.longOutputs p).run h)[k] = h[k] := by
        have hr : ¬ h.Replaceable k := fun hr => hobs' ((History.replaceable_iff_before hlater).mp hr).1
        rw [← Option.some.injEq, ← List.getElem?_eq_getElem hk', hpreserves.getElem?_eq k hr, hlater]
      rw [hrun, List.filter_cons_of_neg hobs', List.filter_cons_of_neg hobs', hrest]

theorem behind_run (p : LongOutputs) (he : h[i]? = some e) (hobs : e.isObservation = true) :
    (((Processor.longOutputs p).run h).standingAt i).behind = p.thinned (h.standingAt i).behind :=
  outputs_drop_run p he hobs (Nat.lt_succ_self i)

theorem getElem?_run_run (p q : LongOutputs) (he : h[i]? = some e) (hr : h.Replaceable i) :
    ((Processor.longOutputs q).run ((Processor.longOutputs p).run h))[i]? =
      some (q.after (p.thinned (h.standingAt i).behind) (p.after (h.standingAt i).behind e)) := by
  have hobs := ((History.replaceable_iff_before he).mp hr).1
  have hr' := (((Processor.longOutputs p).preserves_run h).replaceable_iff i).mpr hr
  rw [q.getElem?_run_eq_after (p.getElem?_run_eq_after he hr) hr', behind_run p he hobs]

/-! ## Two passes -/

/-- The smaller of the bounds of two policies that agree on what is long. -/
def tighter (p q : LongOutputs) (framing : Framing) : LongOutputs where
  n := min p.n q.n
  maxAge := min p.maxAge q.maxAge
  threshold := p.threshold
  framing := framing

theorem tighter_comm (hthreshold : q.threshold = p.threshold) (framing : Framing) :
    q.tighter p framing = p.tighter q framing := by
  unfold tighter
  rw [Nat.min_comm q.n, Nat.min_comm q.maxAge, hthreshold]

theorem isLong_congr (hthreshold : q.threshold = p.threshold) : q.isLong = p.isLong := by
  funext e
  unfold isLong
  rw [hthreshold]

theorem noRoom_tighter_iff (hthreshold : q.threshold = p.threshold) (framing : Framing) :
    (p.tighter q framing).NoRoom later ↔ p.NoRoom later ∨ q.NoRoom later := by
  have hlong : (p.tighter q framing).isLong = p.isLong := isLong_congr rfl
  unfold NoRoom
  rw [hlong, isLong_congr hthreshold]
  simp only [tighter]
  omega

theorem after_thinned (hthreshold : q.threshold = p.threshold) (framing : Framing)
    (hnotice : (omittedNotice e).length ≤ p.threshold) :
    q.after (p.thinned later) (p.after later e) = (p.tighter q framing).after later e := by
  have hlong : (p.tighter q framing).isLong = p.isLong := isLong_congr rfl
  have hlong' : q.isLong = p.isLong := isLong_congr hthreshold
  by_cases he : p.isLong e = true
  · by_cases hroom : p.NoRoom later
    · have hshort : ¬ q.isLong (e.withContent (omittedNotice e)) = true := by
        rw [hlong', isLong, decide_eq_true_eq]
        exact Nat.not_lt_of_le hnotice
      rw [after_of_noRoom he hroom, after_of_not_isLong hshort, after_of_noRoom (hlong ▸ he)]
      exact (noRoom_tighter_iff hthreshold framing).mpr (Or.inl hroom)
    · -- The second pass finds what stands behind as it was.
      rw [thinned_of_not_noRoom hroom, after_of_not_noRoom hroom]
      simp only [after, hlong, hlong', noRoom_tighter_iff hthreshold framing, hroom, false_or]
  · rw [after_of_not_isLong he, after_of_not_isLong (hlong' ▸ he), after_of_not_isLong (hlong ▸ he)]

theorem run_run_eq_tighter (hthreshold : q.threshold = p.threshold) (framing : Framing)
    (hshort : ∀ e ∈ h, e.isObservation = true → (omittedNotice e).length ≤ p.threshold) :
    (Processor.longOutputs q).run ((Processor.longOutputs p).run h) =
      (Processor.longOutputs (p.tighter q framing)).run h := by
  have htwo := ((Processor.longOutputs p).preserves_run h).trans ((Processor.longOutputs q).preserves_run _)
  apply htwo.eq_of_replaceable ((Processor.longOutputs (p.tighter q framing)).preserves_run h)
  intro i e he hr
  have hobs := ((History.replaceable_iff_before he).mp hr).1
  rw [getElem?_run_run p q he hr, getElem?_run_eq_after _ he hr,
    after_thinned hthreshold framing (hshort e (List.mem_of_getElem? he) hobs)]

/-- **Two passes in a row are one with the smaller bounds**, as long as no notice is a long output itself. Neither
the order of the two nor the way that any of the walks goes makes a difference, and it is the same in a pipeline. -/
theorem stacked_bounds_intersect (hthreshold : q.threshold = p.threshold) (framing : Framing) (h : History)
    (hshort : ∀ e ∈ h, e.isObservation = true → (omittedNotice e).length ≤ p.threshold) :
    (Processor.longOutputs q).run ((Processor.longOutputs p).run h) =
      (Processor.longOutputs (p.tighter q framing)).run h ∧
    (Processor.longOutputs p).run ((Processor.longOutputs q).run h) =
      (Processor.longOutputs (p.tighter q framing)).run h ∧
    ∀ name,
      (Processor.pipeline name [.longOutputs p, .longOutputs q]).run h =
        (Processor.longOutputs (p.tighter q framing)).run h ∧
      (Processor.pipeline name [.longOutputs q, .longOutputs p]).run h =
        (Processor.longOutputs (p.tighter q framing)).run h := by
  have hpq := run_run_eq_tighter hthreshold framing hshort
  have hqp : (Processor.longOutputs p).run ((Processor.longOutputs q).run h) =
      (Processor.longOutputs (p.tighter q framing)).run h := by
    rw [← tighter_comm hthreshold]
    exact run_run_eq_tighter hthreshold.symm framing (hthreshold ▸ hshort)
  refine ⟨hpq, hqp, fun name => ⟨?_, ?_⟩⟩
  · rw [Processor.run_pipeline]
    exact hpq
  · rw [Processor.run_pipeline]
    exact hqp

/-- Four outputs of 30 characters, with a short one before the newest. -/
def fourLong : History := [
  { role := .user, content := "task" },
  { role := .user, content := "a first output of thirty chars" },
  { role := .user, content := "another output of thirty chars" },
  { role := .user, content := "one more output, thirty chars." },
  { role := .user, content := "no output" },
  { role := .user, content := "the newest of the four outputs" }]

/-- The third of the long outputs is within the count of both policies, and too old for one of them. -/
theorem stacked_bounds_intersect_fourLong :
    (∀ e ∈ fourLong, e.isObservation = true → (omittedNotice e).length ≤ 28) ∧
    (Processor.longOutputs { n := 3, maxAge := 1, threshold := 28, framing := .reverse }).run
        ((Processor.longOutputs { n := 2, maxAge := 9, threshold := 28 }).run fourLong) =
      (Processor.longOutputs { n := 2, maxAge := 1, threshold := 28 }).run fourLong ∧
    ((Processor.longOutputs { n := 2, maxAge := 1, threshold := 28 }).run fourLong).map Entry.content =
      ["task", "Old output omitted (1 lines)", "Old output omitted (1 lines)", "Old output omitted (1 lines)",
        "no output", "the newest of the four outputs"] := by
  have hshort : ∀ e ∈ fourLong, e.isObservation = true → (omittedNotice e).length ≤ 28 := by decide
  refine ⟨hshort, ?_, by decide⟩
  exact (stacked_bounds_intersect (p := { n := 2, maxAge := 9, threshold := 28 })
    (q := { n := 3, maxAge := 1, threshold := 28, framing := .reverse }) rfl .forward fourLong hshort).1

/-! ## Three passes -/

/-- A notice that is long is omitted in turn, and what then stands there speaks of one line forever. -/
theorem after_after_of_omitted {later' : History} (hroom : p.NoRoom later) (hroom' : p.NoRoom later') (e e' : Entry) :
    p.after later' (p.after later (e.withContent (omittedNotice e'))) =
      p.after later (e.withContent (omittedNotice e')) := by
  by_cases hnotice : p.isLong (e.withContent (omittedNotice e')) = true
  · rw [after_of_noRoom hnotice hroom, omittedNotice_of_omitted, Entry.withContent_withContent]
    by_cases hagain : p.isLong (e.withContent "Old output omitted (1 lines)") = true
    · have hsame : omittedNotice (e.withContent "Old output omitted (1 lines)") = "Old output omitted (1 lines)" := by
        have hinner := omittedNotice_of_omitted e (e.withContent (omittedNotice e'))
        rwa [omittedNotice_of_omitted e e'] at hinner
      rw [after_of_noRoom hagain hroom', hsame, Entry.withContent_withContent]
    · exact after_of_not_isLong hagain later'
  · rw [after_of_not_isLong hnotice, after_of_not_isLong hnotice]

theorem after_after_after (p : LongOutputs) (later : History) (e : Entry) :
    p.after (p.thinned (p.thinned later)) (p.after (p.thinned later) (p.after later e)) =
      p.after (p.thinned later) (p.after later e) := by
  by_cases hroom : p.NoRoom later
  · by_cases hlong : p.isLong e = true
    · rw [after_of_noRoom hlong hroom]
      exact after_after_of_omitted hroom.thinned hroom.thinned.thinned e e
    · rw [after_of_not_isLong hlong, after_of_not_isLong hlong, after_of_not_isLong hlong]
  · rw [thinned_of_not_noRoom hroom, thinned_of_not_noRoom hroom, after_of_not_noRoom hroom,
      after_of_not_noRoom hroom]

/-- **A third pass changes nothing**, whatever the threshold. The second pass may still change a notice that is
long itself and speaks of several lines. -/
theorem third_pass_changes_nothing (p : LongOutputs) (h : History) :
    (Processor.longOutputs p).run ((Processor.longOutputs p).run ((Processor.longOutputs p).run h)) =
      (Processor.longOutputs p).run ((Processor.longOutputs p).run h) := by
  have honce := (Processor.longOutputs p).preserves_run h
  have htwice := honce.trans ((Processor.longOutputs p).preserves_run _)
  apply (htwice.trans ((Processor.longOutputs p).preserves_run _)).eq_of_replaceable htwice
  intro i e he hr
  have hobs := ((History.replaceable_iff_before he).mp hr).1
  have hr' := (honce.replaceable_iff i).mpr hr
  rw [getElem?_run_run p p (p.getElem?_run_eq_after he hr) hr', behind_run p he hobs, after_after_after,
    getElem?_run_run p p he hr]

/-- With a threshold of 27 the notice is a long output, and the second pass omits it in turn. -/
example :
    ((Processor.longOutputs { n := 0, maxAge := 0, threshold := 27 }).run
        [{ role := .user, content := "task" }, { role := .user, content := "some output\nthat has two lines" }]).map
      Entry.content = ["task", "Old output omitted (2 lines)"] ∧
    ((Processor.longOutputs { n := 0, maxAge := 0, threshold := 27 }).run
        [{ role := .user, content := "task" }, { role := .user, content := "Old output omitted (2 lines)" }]).map
      Entry.content = ["task", "Old output omitted (1 lines)"] := by
  decide

end Compaction.LongOutputs
