import Compaction.Proofs.Policy.Decisions
import Compaction.Proofs.Policy.LongOutputs
import Compaction.Proofs.Policy.StaleWindows
import Compaction.Proofs.Processor.Preservation
import Compaction.Proofs.Transcript.Standing

/-!
# Replacements by standing

Whatever way a policy walks over a transcript, what it does to an observation other than the task
statement follows from the observation and from its standing:

* `FailedEdits.replacement?`, `LastOutputs.replacement?`, `LongOutputs.replacement?`,
  `StaleWindows.replacement?` : what each policy writes in place of such an observation, if anything;
* `FailedEdits.content_revisions`, `LastOutputs.content_revisions`, `LongOutputs.content_revisions`,
  `StaleWindows.content_decisions` : the decisions of each policy follow it;
* `Processor.fate` : what becomes of an entry of a given standing;
* `Processor.getElem?_run` : a processor that is no pipeline rewrites each entry to its fate.
-/

namespace Compaction

open FileView (findWindow collapse)

def Entry.rewrite (e : Entry) (content : Option String) : Entry := (content.map e.withContent).getD e

@[simp] theorem Entry.isObservation_rewrite (e : Entry) (content : Option String) :
    (e.rewrite content).isObservation = e.isObservation := by
  cases content <;> rfl

theorem Entry.revise_eq_rewrite (e : Entry) (decision : Option Revision) :
    e.revise decision = e.rewrite (decision.map Revision.content) := by
  cases decision <;> rfl

variable {h : History} {i : Nat} {e : Entry}

/-- A decision rewrites an entry to its content. -/
theorem History.getElem?_revise_of_content {decisions : List (Option Revision)} {content : Option String}
    (he : h[i]? = some e) (hd : decisions[i]?.map (Option.map Revision.content) = some content) :
    (h.revise decisions)[i]? = some (e.rewrite content) := by
  obtain ⟨decision, hdecision, rfl⟩ := Option.map_eq_some_iff.mp hd
  rw [getElem?_revise, he, Option.bind_some, hdecision, Option.map_some, Entry.revise_eq_rewrite]

/-! ## Failed edits -/

/-- A failed edit gives way to the notice, unless it is the final entry and that one is exempt. -/
def FailedEdits.replacement? (p : FailedEdits) (s : Standing) (e : Entry) : Option String :=
  if (p.keepLast && s.final) || !isFailedEdit e then none else some p.notice.text

theorem FailedEdits.content_revisions (p : FailedEdits) (he : h[i]? = some e) (hr : h.Replaceable i) :
    (p.revisions h)[i]?.map (Option.map Revision.content) = some (p.replacement? (h.standingAt i) e) := by
  have htask : (some i == h.taskIndex?) = false := by
    obtain ⟨-, -, -, htask⟩ := hr
    rw [beq_eq_false_iff_ne]
    exact Ne.symm htask
  have hfinal : (i + 1 == h.length) = (h.standingAt i).final := by
    have hi := (List.getElem?_eq_some_iff.mp he).1
    rw [Bool.eq_iff_iff, beq_iff_eq, History.standingAt, List.isEmpty_iff, List.drop_eq_nil_iff]
    omega
  rw [getElem?_revisions, he, Option.map_some, Option.map_some, isExempt, htask, hfinal, Bool.false_or,
    replacement?]
  split <;> rfl

theorem FailedEdits.getElem?_run_of_replaceable (p : FailedEdits) (he : h[i]? = some e)
    (hr : h.Replaceable i) :
    ((Processor.failedEdits p).run h)[i]? = some (e.rewrite (p.replacement? (h.standingAt i) e)) :=
  History.getElem?_revise_of_content he (p.content_revisions he hr)

/-! ## Last outputs -/

/-- An observation stays if fewer than `n` stand behind it. -/
def LastOutputs.replacement? (p : LastOutputs) (s : Standing) (e : Entry) : Option String :=
  if s.behind.length < p.n then none else some (omittedNotice e)

theorem LastOutputs.keeps_rankAt (p : LastOutputs) (he : h[i]? = some e) (hr : h.Replaceable i) :
    p.keeps h.observationCount (h.rankAt i) = decide ((h.standingAt i).behind.length < p.n) := by
  obtain ⟨hobs, hbefore⟩ := (History.replaceable_iff_before he).mp hr
  have hrank : h.rankAt i = (h.standingAt i).before + 1 := rfl
  have hpos := p.pos
  rw [Bool.eq_iff_iff, decide_eq_true_eq, keeps, windowStart, History.observationCount_eq_add he hobs,
    hrank, Bool.or_eq_true, beq_iff_eq, decide_eq_true_eq]
  omega

theorem LastOutputs.content_revisions (p : LastOutputs) (he : h[i]? = some e) (hr : h.Replaceable i) :
    (p.revisions h)[i]?.map (Option.map Revision.content) = some (p.replacement? (h.standingAt i) e) := by
  obtain ⟨hobs, -⟩ := (History.replaceable_iff_before he).mp hr
  rw [getElem?_revisions, he, Option.map_some, Option.map_some, hobs, p.keeps_rankAt he hr, Bool.true_and,
    replacement?]
  by_cases hkept : (h.standingAt i).behind.length < p.n
  · rw [if_pos hkept, decide_eq_true hkept]
    rfl
  · rw [if_neg hkept, decide_eq_false hkept]
    rfl

theorem LastOutputs.getElem?_run_of_replaceable (p : LastOutputs) (he : h[i]? = some e)
    (hr : h.Replaceable i) :
    ((Processor.lastOutputs p).run h)[i]? = some (e.rewrite (p.replacement? (h.standingAt i) e)) :=
  History.getElem?_revise_of_content he (p.content_revisions he hr)

/-! ## Long outputs -/

/-- A long observation gives way if `n` long ones or more than `maxAge` of any length stand behind it. -/
def LongOutputs.replacement? (p : LongOutputs) (s : Standing) (e : Entry) : Option String :=
  if p.isLong e && (decide (p.n ≤ s.behind.countP p.isLong) || decide (p.maxAge < s.behind.length)) then
    some (omittedNotice e)
  else none

/-- Behind an observation, every long observation is a candidate. -/
theorem LongOutputs.candidates_drop (p : LongOutputs) (he : h[i]? = some e) (hobs : e.isObservation = true) :
    p.candidates h.taskIndex? (h.zipIdx.drop (i + 1)) = (h.standingAt i).behind.countP p.isLong := by
  have hcongr : p.candidates h.taskIndex? (h.zipIdx.drop (i + 1)) =
      (h.zipIdx.drop (i + 1)).countP ((fun later => p.isLong later && later.isObservation) ∘ Prod.fst) := by
    apply List.countP_congr
    rintro ⟨later, j⟩ hmem
    obtain ⟨hij, hj⟩ := mem_drop_zipIdx_iff.mp hmem
    rw [Function.comp_apply, isCandidate, Bool.and_eq_true, Bool.and_eq_true, Bool.and_eq_true,
      bne_iff_ne]
    constructor
    · rintro ⟨⟨hobs', -⟩, hlong⟩
      exact ⟨hlong, hobs'⟩
    · rintro ⟨hlong, hobs'⟩
      obtain ⟨-, -, -, htask⟩ := History.replaceable_of_lt hij he hobs hj hobs'
      exact ⟨⟨hobs', Ne.symm htask⟩, hlong⟩
  rw [hcongr, ← List.countP_map, List.map_drop, List.zipIdx_map_fst, History.standingAt, History.outputs,
    List.countP_filter]

theorem LongOutputs.observations_drop (h : History) (i : Nat) :
    observations (h.zipIdx.drop (i + 1)) = (h.standingAt i).behind.length := by
  have hcount : observations (h.zipIdx.drop (i + 1)) =
      (h.zipIdx.drop (i + 1)).countP (Entry.isObservation ∘ Prod.fst) := rfl
  rw [hcount, ← List.countP_map, List.map_drop, List.zipIdx_map_fst, History.standingAt,
    History.length_outputs, History.observationCount]

theorem LongOutputs.dropsAt_eq_of_replaceable (p : LongOutputs) (he : h[i]? = some e)
    (hr : h.Replaceable i) :
    p.dropsAt h i e = (p.isLong e && (decide (p.n ≤ (h.standingAt i).behind.countP p.isLong) ||
      decide (p.maxAge < (h.standingAt i).behind.length))) := by
  obtain ⟨hobs, -⟩ := (History.replaceable_iff_before he).mp hr
  have htask : (some i != h.taskIndex?) = true := by
    obtain ⟨-, -, -, htask⟩ := hr
    exact bne_iff_ne.mpr (Ne.symm htask)
  rw [dropsAt, drops, isCandidate, htask, hobs, p.candidates_drop he hobs, observations_drop,
    Bool.true_and, Bool.true_and]

theorem LongOutputs.content_revisions (p : LongOutputs) (he : h[i]? = some e) (hr : h.Replaceable i) :
    (p.revisions h)[i]?.map (Option.map Revision.content) = some (p.replacement? (h.standingAt i) e) := by
  rw [getElem?_revisions, he, Option.map_some, Option.map_some, p.dropsAt_eq_of_replaceable he hr, replacement?]
  split <;> rfl

theorem LongOutputs.getElem?_run_of_replaceable (p : LongOutputs) (he : h[i]? = some e)
    (hr : h.Replaceable i) :
    ((Processor.longOutputs p).run h)[i]? = some (e.rewrite (p.replacement? (h.standingAt i) e)) :=
  History.getElem?_revise_of_content he (p.content_revisions he hr)

/-! ## Stale windows -/

namespace StaleWindows

def fileOf? (e : Entry) : Option String := (findWindow e.content).map FileView.Window.file

/-- A window collapses if an observation behind it shows a window of the same file. -/
def replacement? (s : Standing) (e : Entry) : Option String :=
  (findWindow e.content).bind fun w =>
    if some w.file ∈ s.behind.map fileOf? then some (collapse e.content w) else none

/-- Behind an observation, every observation that shows a window may collapse. -/
theorem mem_files_behind_iff (he : h[i]? = some e) (hobs : e.isObservation = true) {f : String} :
    some f ∈ (h.standingAt i).behind.map fileOf? ↔ ∃ j, i < j ∧ IsWindowOf h j f := by
  rw [List.mem_map]
  constructor
  · rintro ⟨later, hmem, hfile⟩
    obtain ⟨j, hij, hj, hobs'⟩ := History.mem_behind_iff.mp hmem
    obtain ⟨w, hw, rfl⟩ := Option.map_eq_some_iff.mp hfile
    obtain ⟨-, -, -, htask⟩ := History.replaceable_of_lt hij he hobs hj hobs'
    exact ⟨j, hij, later, w, hj, hobs', htask, hw, rfl⟩
  · rintro ⟨j, hij, later, w, hj, hobs', -, hw, rfl⟩
    exact ⟨later, History.mem_behind_iff.mpr ⟨j, hij, hj, hobs'⟩, by rw [fileOf?, hw, Option.map_some]⟩

theorem content_decisions (he : h[i]? = some e) (hr : h.Replaceable i) :
    (scan h.taskIndex? h.zipIdx).decisions[i]?.map (Option.map Revision.content) =
      some (replacement? (h.standingAt i) e) := by
  obtain ⟨hobs, -⟩ := (History.replaceable_iff_before he).mp hr
  have hwindow : windowAt h.taskIndex? e i = findWindow e.content := by
    obtain ⟨-, -, -, htask⟩ := hr
    ext w
    rw [windowAt_eq_some_iff, and_iff_right hobs, and_iff_right htask]
  rw [getElem?_decisions_scan, List.getElem?_zipIdx, Nat.zero_add, he, Option.map_some, Option.map_some,
    Option.map_some, decision, hwindow, replacement?]
  cases findWindow e.content with
  | none => rfl
  | some w =>
    simp only [Option.bind_some, mem_seen_drop_iff, ← mem_files_behind_iff he hobs]
    split <;> rfl

theorem getElem?_run_of_replaceable (he : h[i]? = some e) (hr : h.Replaceable i) :
    (Processor.staleWindows.run h)[i]? = some (e.rewrite (replacement? (h.standingAt i) e)) :=
  History.getElem?_revise_of_content he (content_decisions he hr)

end StaleWindows

/-! ## Processors -/

namespace Processor

/-- What a policy writes in place of an observation other than the task statement, if anything. -/
def replacement? : Processor → Standing → Entry → Option String
  | identity, _, _ => none
  | failedEdits policy, s, e => policy.replacement? s e
  | lastOutputs policy, s, e => policy.replacement? s e
  | longOutputs policy, s, e => policy.replacement? s e
  | staleWindows, s, e => StaleWindows.replacement? s e
  | pipeline _ _, _, _ => none

/-- What becomes of an entry: the task statement, which no observation stands before, and whatever is no
observation stay. -/
def fate (p : Processor) (s : Standing) (e : Entry) : Entry :=
  if e.isObservation && s.before != 0 then e.rewrite (p.replacement? s e) else e

@[simp] theorem isObservation_fate (p : Processor) (s : Standing) (e : Entry) :
    (p.fate s e).isObservation = e.isObservation := by
  unfold fate
  split
  · exact e.isObservation_rewrite _
  · rfl

/-- **A processor that is no pipeline rewrites each entry to its fate.** -/
theorem getElem?_run {p : Processor} (hp : ∀ name stages, p ≠ .pipeline name stages) (h : History)
    (i : Nat) : (p.run h)[i]? = h[i]?.map (p.fate (h.standingAt i)) := by
  cases he : h[i]? with
  | none => exact List.getElem?_eq_none ((p.preserves_run h).length_eq ▸ List.getElem?_eq_none_iff.mp he)
  | some e =>
    have hsubject : (e.isObservation && (h.standingAt i).before != 0) = true ↔ h.Replaceable i := by
      rw [History.replaceable_iff_before he, Bool.and_eq_true, bne_iff_ne]
    rw [Option.map_some, fate]
    by_cases hr : h.Replaceable i
    · rw [if_pos (hsubject.mpr hr)]
      cases p with
      | identity => exact he
      | failedEdits policy => exact policy.getElem?_run_of_replaceable he hr
      | lastOutputs policy => exact policy.getElem?_run_of_replaceable he hr
      | longOutputs policy => exact policy.getElem?_run_of_replaceable he hr
      | staleWindows => exact StaleWindows.getElem?_run_of_replaceable he hr
      | pipeline name stages => exact absurd rfl (hp name stages)
    · rw [if_neg (mt hsubject.mp hr), (p.preserves_run h).getElem?_eq i hr, he]

end Processor

end Compaction
