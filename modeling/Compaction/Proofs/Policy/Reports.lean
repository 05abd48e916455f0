import Compaction.Proofs.Policy.Notices
import Compaction.Proofs.Policy.Replacement
import Mathlib.Data.List.Induction

/-!
# Reports of what was rewritten

* `Event.entry?`, `Event.revised?` : the position that the report of a single revision names, and the number of
  revisions that a summary states (`Event.exists_message_of_entry?`, `Event.exists_message_of_revised?`);
* `Processor.Rewrites`, `Processor.rewritten` : the positions at which a policy has new content;
* `Processor.Follows` : a list of decisions that is made by the replacements of a policy, and so reports these
  positions (`Processor.Follows.map_entry?_revisionEvents`);
* `Processor.Accounts` : the events of a policy report what it has done at some positions, and nothing else;
* `Stats.replaced_between`, `Processor.replaced_add_unaltered` : what is replaced but not altered is missing in the
  account of a step;
* `StaleWindows.Tallied` : the walk counts each window once, as collapsed or by its file;
* `reports_match_changes` : all this together.

A notice alters an entry unless it is what the entry says already, and only the notice of an omitted output can be
(`omittedNotice_eq_content_iff`).
-/

namespace Compaction

open FileView (findWindow collapse findWindow_collapse)

/-! ## What events say -/

namespace Event

variable {event : Event} {i count : Nat}

/-- The position that the report of a single revision names. -/
def entry? : Event → Option Nat
  | failedEditStripped entry | outputOmitted _ entry | longOutputOmitted entry _ | windowCollapsed _ entry _ =>
    some entry
  | _ => none

/-- The number of revisions that the summary of a policy states. -/
def revised? : Event → Option Nat
  | failedEditsSummary count | outputsSummary _ count _ _ | longOutputsSummary _ count _ _ _
  | windowsSummary count _ => some count
  | _ => none

theorem level_of_entry? (h : event.entry? = some i) : event.level = .trace := by
  cases event <;> first | rfl | cases h

theorem level_of_revised? (h : event.revised? = some count) : event.level = .debug := by
  cases event <;> first | rfl | cases h

/-- What stands behind a number in a message: nothing, or a blank comes first. -/
def IsClosing (closing : String) : Prop := closing = "" ∨ closing.toList.head? = some ' '

theorem isClosing_append {first : String} (h : first.toList.head? = some ' ') (rest : String) :
    IsClosing (first ++ rest) := by
  right
  rw [String.toList_append, List.head?_append, h, Option.some_or]

theorem exists_message_of_entry? (h : event.entry? = some i) :
    ∃ opening closing, IsClosing closing ∧ event.message = opening ++ " at entry " ++ toString i ++ closing := by
  cases event with
  | failedEditStripped entry =>
    obtain rfl := Option.some.inj h
    have hopening : "Stripping failed edit at entry " = "Stripping failed edit" ++ " at entry " := by decide
    refine ⟨"Stripping failed edit", "", Or.inl rfl, ?_⟩
    rw [← hopening, String.append_empty]
    rfl
  | outputOmitted observation entry =>
    obtain rfl := Option.some.inj h
    refine ⟨"Omitting observation " ++ toString observation, "", Or.inl rfl, ?_⟩
    rw [String.append_empty]
    rfl
  | longOutputOmitted entry chars =>
    obtain rfl := Option.some.inj h
    have hopening : "Omitting long output at entry " = "Omitting long output" ++ " at entry " := by decide
    refine ⟨"Omitting long output", " (" ++ (toString chars ++ " chars)"), isClosing_append (by decide) _, ?_⟩
    iterate 2 rw [← String.append_assoc]
    rw [← hopening]
    rfl
  | windowCollapsed file entry lines =>
    obtain rfl := Option.some.inj h
    refine ⟨"Collapsing stale window of " ++ file, " (" ++ (toString lines ++ " lines)"),
      isClosing_append (by decide) _, ?_⟩
    iterate 2 rw [← String.append_assoc]
    rfl
  | _ => cases h

theorem exists_message_of_revised? (h : event.revised? = some count) :
    ∃ opening closing, IsClosing closing ∧ event.message = opening ++ "ed " ++ toString count ++ closing := by
  have homitted : ∀ policy : String, policy ++ ": omitt" ++ "ed " = policy ++ ": omitted " := by
    intro policy
    rw [String.append_assoc]
    rfl
  cases event with
  | failedEditsSummary replaced =>
    obtain rfl := Option.some.inj h
    have hopening : "strip_failed_edits: replaced " = "strip_failed_edits: replac" ++ "ed " := by decide
    refine ⟨"strip_failed_edits: replac", " failed edit(s)", Or.inr (by decide), ?_⟩
    rw [← hopening]
    rfl
  | outputsSummary policy omitted total n =>
    obtain rfl := Option.some.inj h
    refine ⟨policy ++ ": omitt", " of " ++ (toString total ++ (" observation(s) (n=" ++ (toString n ++ ")"))),
      isClosing_append (by decide) _, ?_⟩
    rw [homitted]
    iterate 4 rw [← String.append_assoc]
    rfl
  | longOutputsSummary policy omitted total n maxAge =>
    obtain rfl := Option.some.inj h
    refine ⟨policy ++ ": omitt", " of " ++ (toString total ++ (" observation(s) (n=" ++ (toString n ++ (", max_age="
      ++ (toString maxAge ++ ")"))))), isClosing_append (by decide) _, ?_⟩
    rw [homitted]
    iterate 6 rw [← String.append_assoc]
    rfl
  | windowsSummary collapsed files =>
    obtain rfl := Option.some.inj h
    have hopening : "closed_window: collapsed " = "closed_window: collaps" ++ "ed " := by decide
    refine ⟨"closed_window: collaps", " stale window(s) across " ++ (toString files ++ " file(s)"),
      isClosing_append (by decide) _, ?_⟩
    rw [← hopening, ← String.append_assoc, ← String.append_assoc]
    rfl
  | _ => cases h

end Event

/-- The reports of revisions name the positions of these, in order. The induction is on the last decision, so that the
positions before it stay as they are. -/
theorem map_entry?_revisionEvents {decisions : List (Option Revision)}
    (hentry : ∀ (i : Nat) (r : Revision), decisions[i]? = some (some r) → r.event.entry? = some i) :
    (revisionEvents decisions).map Event.entry? =
      ((List.range decisions.length).filter fun i => decisions[i]?.join.isSome).map some := by
  induction decisions using List.reverseRecOn with
  | nil => rfl
  | append_singleton decisions last ih =>
    have hearlier : ∀ {i : Nat}, i < decisions.length → (decisions ++ [last])[i]? = decisions[i]? := fun hi =>
      List.getElem?_append_left hi
    have hlast : (decisions ++ [last])[decisions.length]? = some last := List.getElem?_concat_length
    have hfilter : (List.range decisions.length).filter (fun i => (decisions ++ [last])[i]?.join.isSome) =
        (List.range decisions.length).filter fun i => decisions[i]?.join.isSome :=
      List.filter_congr fun i hi => by rw [hearlier (List.mem_range.mp hi)]
    have hdecisions := ih fun i r hr => hentry i r ((hearlier (List.getElem?_eq_some_iff.mp hr).1).trans hr)
    rw [revisionEvents] at hdecisions
    rw [revisionEvents, List.filterMap_append, List.map_append, hdecisions, List.length_append,
      List.length_singleton, List.range_succ, List.filter_append, List.map_append, hfilter]
    congr 1
    cases last with
    | none => simp
    | some r => simp [hentry _ _ hlast]

namespace Processor

variable {p : Processor} {h : History} {i : Nat} {decisions : List (Option Revision)}

/-! ## Positions -/

/-- A policy has new content for the entry at position `i`. -/
def Rewrites (p : Processor) (h : History) (i : Nat) : Prop :=
  ∃ e ∈ h[i]?, (e.isObservation = true ∧ h.taskIndex? ≠ some i) ∧
    (p.replacement? (h.standingAt i) e).isSome = true

instance (p : Processor) (h : History) (i : Nat) : Decidable (p.Rewrites h i) :=
  inferInstanceAs (Decidable (∃ e ∈ h[i]?, _ ∧ _))

/-- The positions at which a policy has new content, in order. -/
def rewritten (p : Processor) (h : History) : List Nat := (List.range h.length).filter fun i => p.Rewrites h i

theorem rewrites_iff {e : Entry} (he : h[i]? = some e) :
    p.Rewrites h i ↔ h.Replaceable i ∧ ∃ content, p.replacement? (h.standingAt i) e = some content := by
  unfold Rewrites History.Replaceable
  rw [he]
  simp only [Option.mem_def, Option.some.injEq, exists_eq_left', Option.isSome_iff_exists]

theorem mem_rewritten : i ∈ p.rewritten h ↔ p.Rewrites h i := by
  rw [rewritten, List.mem_filter, List.mem_range, decide_eq_true_eq]
  refine and_iff_right_of_imp ?_
  rintro ⟨e, he, -⟩
  exact (List.getElem?_eq_some_iff.mp he).1

theorem pairwise_rewritten (p : Processor) (h : History) : (p.rewritten h).Pairwise (· < ·) :=
  List.pairwise_lt_range.filter _

theorem getElem?_run_of_rewrites (hp : ∀ name stages, p ≠ .pipeline name stages) {e : Entry} {content : String}
    (he : h[i]? = some e) (hr : h.Replaceable i) (hc : p.replacement? (h.standingAt i) e = some content) :
    (p.run h)[i]? = some (e.withContent content) := by
  have hsubject := (History.replaceable_iff_before he).mp hr
  rw [p.getElem?_run hp, he, Option.map_some, fate, if_pos (by simpa using hsubject), hc]
  rfl

theorem getElem?_run_of_not_rewrites (hp : ∀ name stages, p ≠ .pipeline name stages) (hno : ¬ p.Rewrites h i) :
    (p.run h)[i]? = h[i]? := by
  by_cases hr : h.Replaceable i
  · obtain ⟨e, he, -⟩ := id hr
    rw [rewrites_iff he, and_iff_right hr, ← Option.isSome_iff_exists, Option.not_isSome_iff_eq_none] at hno
    rw [p.getElem?_run hp, he, Option.map_some, fate, hno, Entry.rewrite, Option.map_none, Option.getD_none, ite_self]
  · exact (p.preserves_run h).getElem?_eq i hr

/-! ## Decisions -/

/-- The decisions follow the replacements of a policy, and the report of each revision names its position. -/
structure Follows (p : Processor) (h : History) (decisions : List (Option Revision)) : Prop where
  length_eq : decisions.length = h.length
  content_eq : ∀ {i : Nat} {e : Entry}, h[i]? = some e → h.Replaceable i →
    decisions[i]?.map (Option.map Revision.content) = some (p.replacement? (h.standingAt i) e)
  replaceable : ∀ {i : Nat} {r : Revision}, decisions[i]? = some (some r) → h.Replaceable i
  entry_eq : ∀ (i : Nat) (r : Revision), decisions[i]? = some (some r) → r.event.entry? = some i

theorem follows_failedEdits (policy : FailedEdits) (h : History) :
    (failedEdits policy).Follows h (policy.revisions h) where
  length_eq := List.length_mapIdx
  content_eq := policy.content_revisions
  replaceable := FailedEdits.replaceable_of_revisions
  entry_eq _ _ hr := by
    rw [FailedEdits.getElem?_revisions, Option.map_eq_some_iff] at hr
    obtain ⟨e, -, hr⟩ := hr
    split at hr <;> cases hr
    rfl

theorem follows_lastOutputs (policy : LastOutputs) (h : History) :
    (lastOutputs policy).Follows h (policy.revisions h) where
  length_eq := policy.length_revisions h
  content_eq := policy.content_revisions
  replaceable := LastOutputs.replaceable_of_revisions
  entry_eq _ _ hr := by
    rw [LastOutputs.getElem?_revisions, Option.map_eq_some_iff] at hr
    obtain ⟨e, -, hr⟩ := hr
    split at hr <;> cases hr
    rfl

theorem follows_longOutputs (policy : LongOutputs) (h : History) :
    (longOutputs policy).Follows h (policy.revisions h) where
  length_eq := LongOutputs.length_revisions
  content_eq := policy.content_revisions
  replaceable := LongOutputs.replaceable_of_revisions
  entry_eq _ _ hr := by
    rw [LongOutputs.getElem?_revisions, Option.map_eq_some_iff] at hr
    obtain ⟨e, -, hr⟩ := hr
    split at hr <;> cases hr
    rfl

theorem follows_staleWindows (h : History) :
    staleWindows.Follows h (StaleWindows.scan h.taskIndex? h.zipIdx).decisions where
  length_eq := by rw [StaleWindows.length_decisions_scan, List.length_zipIdx]
  content_eq := StaleWindows.content_decisions
  replaceable := StaleWindows.replaceable_of_decisions
  entry_eq _ _ hr := by
    rw [StaleWindows.getElem?_decisions_scan, List.getElem?_zipIdx, Nat.zero_add, Option.map_map,
      Option.map_eq_some_iff] at hr
    obtain ⟨e, -, hr⟩ := hr
    obtain ⟨w, -, hr⟩ := Option.bind_eq_some_iff.mp hr
    split at hr <;> cases hr
    rfl

theorem Follows.isSome_iff (hf : p.Follows h decisions) : decisions[i]?.join.isSome = true ↔ p.Rewrites h i := by
  constructor
  · intro hsome
    obtain ⟨r, hr⟩ := Option.isSome_iff_exists.mp hsome
    rw [Option.join_eq_some_iff] at hr
    obtain ⟨e, he, -⟩ := id (hf.replaceable hr)
    have hcontent := hf.content_eq he (hf.replaceable hr)
    rw [hr, Option.map_some, Option.map_some, Option.some.injEq] at hcontent
    exact (rewrites_iff he).mpr ⟨hf.replaceable hr, r.content, hcontent.symm⟩
  · rintro ⟨e, he, hsubject, hsome⟩
    have hcontent := hf.content_eq he ⟨e, he, hsubject⟩
    cases hdecision : decisions[i]? with
    | none =>
      rw [hdecision] at hcontent
      cases hcontent
    | some decision =>
      rw [hdecision, Option.map_some, Option.some.injEq] at hcontent
      rwa [Option.join_some, ← Option.isSome_map (f := Revision.content), hcontent]

theorem Follows.map_entry?_revisionEvents (hf : p.Follows h decisions) :
    (revisionEvents decisions).map Event.entry? = (p.rewritten h).map some := by
  rw [Compaction.map_entry?_revisionEvents hf.entry_eq, hf.length_eq, rewritten]
  congr 1
  refine List.filter_congr fun i _ => ?_
  rw [Bool.eq_iff_iff, hf.isSome_iff, decide_eq_true_eq]

theorem Follows.countP_isSome (hf : p.Follows h decisions) :
    decisions.countP Option.isSome = (p.rewritten h).length := by
  have hlength := congrArg List.length hf.map_entry?_revisionEvents
  rw [List.length_map, List.length_map, revisionEvents, List.length_filterMap_eq_countP] at hlength
  rw [← hlength]
  refine List.countP_congr fun decision _ => ?_
  rw [Option.isSome_map]

/-! ## Accounts -/

/-- The events of a policy are a trace line for each of some positions, in this order, and behind them one line for
debugging with their number. Just at these positions the policy writes new content. -/
structure Accounts (p : Processor) (h : History) (positions : List Nat) : Prop where
  events_eq : ∃ traces summary, (p.process h).events = traces ++ [summary] ∧
    traces.map Event.entry? = positions.map some ∧ (∀ trace ∈ traces, trace.level = .trace) ∧
    summary.revised? = some positions.length ∧ summary.level = .debug
  written : ∀ i ∈ positions, ∃ e content, h[i]? = some e ∧ h.Replaceable i ∧
    p.replacement? (h.standingAt i) e = some content ∧ (p.run h)[i]? = some (e.withContent content)
  kept : ∀ i, i ∉ positions → (p.run h)[i]? = h[i]? ∧
    ∀ e, h[i]? = some e → h.Replaceable i → p.replacement? (h.standingAt i) e = none

theorem accounts_of_traces (hp : ∀ name stages, p ≠ .pipeline name stages) {positions : List Nat}
    {traces : List Event} {summary : Event} (hevents : (p.process h).events = traces ++ [summary])
    (htraces : traces.map Event.entry? = positions.map some) (hsummary : summary.revised? = some positions.length)
    (hpositions : ∀ i, i ∈ positions ↔ p.Rewrites h i) : p.Accounts h positions where
  events_eq := by
    refine ⟨traces, summary, hevents, htraces, ?_, hsummary, Event.level_of_revised? hsummary⟩
    intro trace htrace
    have hentry : trace.entry? ∈ positions.map some := htraces ▸ List.mem_map_of_mem htrace
    obtain ⟨i, -, hi⟩ := List.mem_map.mp hentry
    exact Event.level_of_entry? hi.symm
  written i hi := by
    have hrewrites := (hpositions i).mp hi
    obtain ⟨e, he, -⟩ := id hrewrites
    obtain ⟨hr, content, hc⟩ := (rewrites_iff he).mp hrewrites
    exact ⟨e, content, he, hr, hc, getElem?_run_of_rewrites hp he hr hc⟩
  kept i hi := by
    have hno := mt (hpositions i).mpr hi
    refine ⟨getElem?_run_of_not_rewrites hp hno, fun e he hr => ?_⟩
    rw [rewrites_iff he, and_iff_right hr, ← Option.isSome_iff_exists] at hno
    exact Option.not_isSome_iff_eq_none.mp hno

theorem Follows.accounts (hf : p.Follows h decisions) (hp : ∀ name stages, p ≠ .pipeline name stages)
    {summary : Event} (hevents : (p.process h).events = revisionEvents decisions ++ [summary])
    (hsummary : summary.revised? = some (decisions.countP Option.isSome)) : p.Accounts h (p.rewritten h) :=
  accounts_of_traces hp hevents hf.map_entry?_revisionEvents (hf.countP_isSome ▸ hsummary) fun _ => mem_rewritten

/-! ## What the account of a step counts -/

end Processor

theorem Stats.replaced_between {h h' : History} (hlength : h'.length = h.length) :
    (Stats.between h h').replaced =
      (List.range h.length).countP fun i => h[i]?.map Entry.content != h'[i]?.map Entry.content := by
  show (h.zip h').countP (fun pair => pair.1.content != pair.2.content) = _
  induction h generalizing h' with
  | nil => rfl
  | cons e h ih =>
    obtain ⟨e', h', rfl⟩ := List.exists_cons_of_length_eq_add_one hlength
    rw [List.length_cons, List.length_cons, Nat.add_right_cancel_iff] at hlength
    rw [List.zip_cons_cons, List.countP_cons, ih hlength, List.length_cons, List.range_succ_eq_map, List.countP_cons,
      List.countP_map]
    rfl

namespace Processor

variable {p : Processor} {h : History} {i : Nat}

/-- What is rewritten but not altered does not count as replaced. -/
theorem replaced_add_unaltered (hp : ∀ name stages, p ≠ .pipeline name stages) (h : History) :
    (Stats.between h (p.run h)).replaced +
        (p.rewritten h).countP (fun i => (p.run h)[i]?.map Entry.content == h[i]?.map Entry.content) =
      (p.rewritten h).length := by
  have hreplaced : (Stats.between h (p.run h)).replaced =
      (p.rewritten h).countP fun i => !((p.run h)[i]?.map Entry.content == h[i]?.map Entry.content) := by
    rw [Stats.replaced_between (p.preserves_run h).length_eq, rewritten, List.countP_filter]
    refine List.countP_congr fun i _ => ?_
    rw [Bool.and_eq_true, Bool.not_eq_true', beq_eq_false_iff_ne, bne_iff_ne, decide_eq_true_eq, ne_comm]
    refine (and_iff_left_of_imp fun hne => ?_).symm
    exact Decidable.not_imp_comm.mp (fun hno => congrArg _ (getElem?_run_of_not_rewrites hp hno)) hne
  have hsplit := List.length_eq_countP_add_countP (l := p.rewritten h)
    fun i => (p.run h)[i]?.map Entry.content == h[i]?.map Entry.content
  simp only [Bool.not_eq_true, Bool.decide_eq_false] at hsplit
  rw [hreplaced, Nat.add_comm, ← hsplit]

theorem unaltered_iff (hp : ∀ name stages, p ≠ .pipeline name stages) {P : Entry → Prop}
    (hP : ∀ s e content, p.replacement? s e = some content → (content = e.content ↔ P e))
    (hi : i ∈ p.rewritten h) :
    ((p.run h)[i]?.map Entry.content == h[i]?.map Entry.content) = true ↔ ∃ e, h[i]? = some e ∧ P e := by
  have hrewrites := mem_rewritten.mp hi
  obtain ⟨e, he, -⟩ := id hrewrites
  obtain ⟨hr, content, hc⟩ := (rewrites_iff he).mp hrewrites
  rw [getElem?_run_of_rewrites hp he hr hc, he, Option.map_some, Option.map_some, Entry.content_withContent,
    beq_iff_eq, Option.some.injEq, hP _ _ _ hc]
  simp only [Option.some.injEq, exists_eq_left']

/-- If new content is never what was there, every rewritten entry counts as replaced. -/
theorem replaced_eq_length (hp : ∀ name stages, p ≠ .pipeline name stages)
    (hne : ∀ s e content, p.replacement? s e = some content → content ≠ e.content) (h : History) :
    (Stats.between h (p.run h)).replaced = (p.rewritten h).length := by
  rw [← replaced_add_unaltered hp, Nat.left_eq_add, List.countP_eq_zero]
  intro i hi hsame
  have hnever : ∀ s e content, p.replacement? s e = some content → (content = e.content ↔ False) :=
    fun s e content hc => iff_false_intro (hne s e content hc)
  obtain ⟨e, -, hfalse⟩ := (unaltered_iff hp hnever hi).mp hsame
  exact hfalse

theorem replaced_add_countP (hp : ∀ name stages, p ≠ .pipeline name stages) {text : String}
    (hsame : ∀ s e content, p.replacement? s e = some content → (content = e.content ↔ e.content = text))
    (h : History) :
    (Stats.between h (p.run h)).replaced +
      (p.rewritten h).countP (fun i => h[i]?.map Entry.content == some text) = (p.rewritten h).length := by
  rw [← replaced_add_unaltered hp]
  congr 1
  refine List.countP_congr fun i hi => ?_
  rw [unaltered_iff hp hsame hi, beq_iff_eq, Option.map_eq_some_iff]

end Processor

/-! ## New content -/

theorem FailedEdits.ne_content_of_replacement? {p : FailedEdits} {s : Standing} {e : Entry} {content : String}
    (hc : p.replacement? s e = some content) : content ≠ e.content := by
  unfold replacement? at hc
  split at hc
  · cases hc
  · rename_i hkeep
    simp only [isFailedEdit, Bool.or_eq_true, Bool.not_eq_true', not_or, Bool.not_eq_false, Bool.and_eq_true,
      Text.occursIn_iff] at hkeep
    obtain rfl := Option.some.inj hc
    intro hsame
    exact not_infix_notice p.notice (hsame ▸ hkeep.2.2)

theorem LastOutputs.eq_of_replacement? {p : LastOutputs} {s : Standing} {e : Entry} {content : String}
    (hc : p.replacement? s e = some content) : content = omittedNotice e := by
  unfold replacement? at hc
  split at hc <;> cases hc
  rfl

/-- The walk drops as many entries as there are revisions. -/
theorem LongOutputs.countP_mask (p : LongOutputs) (h : History) :
    (p.mask h).countP id = (p.revisions h).countP Option.isSome := by
  have hmask : p.mask h = (p.revisions h).map Option.isSome := by
    apply List.ext_getElem?
    intro i
    rw [List.getElem?_map, getElem?_mask, getElem?_revisions, Option.map_map]
    refine congrArg (h[i]?.map ·) (funext fun e => ?_)
    cases hdrops : p.dropsAt h i e <;> simp [hdrops]
  rw [hmask, List.countP_map]
  rfl

theorem LongOutputs.eq_of_replacement? {p : LongOutputs} {s : Standing} {e : Entry} {content : String}
    (hc : p.replacement? s e = some content) : content = omittedNotice e := by
  unfold replacement? at hc
  split at hc <;> cases hc
  rfl

namespace StaleWindows

/-- Nothing is left of a window that collapses. -/
theorem ne_content_of_replacement? {s : Standing} {e : Entry} {content : String}
    (hc : replacement? s e = some content) : content ≠ e.content := by
  obtain ⟨w, hw, hc⟩ := Option.bind_eq_some_iff.mp hc
  split at hc <;> cases hc
  intro hsame
  have hgone := findWindow_collapse hw
  rw [hsame, hw] at hgone
  cases hgone

/-! ## Windows -/

/-- How many observations other than the task statement show a window. -/
def windowCount (h : History) : Nat :=
  h.zipIdx.countP fun pair =>
    pair.1.isObservation && some pair.2 != h.taskIndex? && (findWindow pair.1.content).isSome

theorem isSome_windowAt (task : Option Nat) (e : Entry) (i : Nat) :
    (windowAt task e i).isSome = (e.isObservation && some i != task && (findWindow e.content).isSome) := by
  unfold windowAt
  cases e.isObservation <;> cases htask : some i == task <;> simp [bne, htask]

/-- The walk has counted each window once that it has passed: as collapsed, or by its file. -/
structure Tallied (task : Option Nat) (pairs : List (Entry × Nat)) (s : Scan) : Prop where
  collapsed_eq : s.collapsed = s.decisions.countP Option.isSome
  nodup_seen : s.seen.Nodup
  windows_eq : s.collapsed + s.seen.length = pairs.countP fun pair => (windowAt task pair.1 pair.2).isSome

theorem Tallied.step {task : Option Nat} {pairs : List (Entry × Nat)} {s : Scan} (hs : Tallied task pairs s)
    (pair : Entry × Nat) : Tallied task (pair :: pairs) (step task pair s) := by
  obtain ⟨hcollapsed, hnodup, hwindows⟩ := hs
  unfold StaleWindows.step
  cases hw : windowAt task pair.1 pair.2 with
  | none => exact ⟨by simpa using hcollapsed, hnodup, by simpa [hw] using hwindows⟩
  | some w =>
    by_cases hseen : w.file ∈ s.seen
    · simp only [List.contains_eq_mem, hseen, decide_true, if_true]
      refine ⟨by simpa using hcollapsed, hnodup, ?_⟩
      rw [List.countP_cons_of_pos (by rw [hw]; rfl), ← hwindows]
      exact Nat.add_right_comm _ _ _
    · simp only [List.contains_eq_mem, hseen, decide_false, Bool.false_eq_true, if_false]
      refine ⟨by simpa using hcollapsed, List.nodup_cons.mpr ⟨hseen, hnodup⟩, ?_⟩
      rw [List.countP_cons_of_pos (by rw [hw]; rfl), ← hwindows]
      rfl

theorem tallied_scan (task : Option Nat) (pairs : List (Entry × Nat)) : Tallied task pairs (scan task pairs) := by
  induction pairs with
  | nil => exact ⟨rfl, List.nodup_nil, rfl⟩
  | cons pair pairs ih => exact ih.step pair

theorem collapsed_eq_length (h : History) :
    (scan h.taskIndex? h.zipIdx).collapsed = (Processor.staleWindows.rewritten h).length := by
  rw [(tallied_scan h.taskIndex? h.zipIdx).collapsed_eq, (Processor.follows_staleWindows h).countP_isSome]

theorem windowCount_eq (h : History) : windowCount h =
    (scan h.taskIndex? h.zipIdx).collapsed + (scan h.taskIndex? h.zipIdx).seen.length := by
  rw [(tallied_scan h.taskIndex? h.zipIdx).windows_eq, windowCount]
  simp only [isSome_windowAt]

theorem mem_seen_iff {h : History} {file : String} :
    file ∈ (scan h.taskIndex? h.zipIdx).seen ↔ ∃ i, IsWindowOf h i file := by
  rw [mem_seen_scan]
  simp only [isWindowOf_iff]
  constructor
  · rintro ⟨⟨e, i⟩, hmem, w, hw, hfile⟩
    exact ⟨i, e, w, List.mk_mem_zipIdx_iff_getElem?.mp hmem, hw, hfile⟩
  · rintro ⟨i, e, w, he, hw, hfile⟩
    exact ⟨(e, i), List.mk_mem_zipIdx_iff_getElem?.mpr he, w, hw, hfile⟩

end StaleWindows

/-! ## Main result -/

namespace Processor

theorem accounts_failedEdits (policy : FailedEdits) (h : History) :
    (failedEdits policy).Accounts h ((failedEdits policy).rewritten h) :=
  (follows_failedEdits policy h).accounts (fun _ _ => Processor.noConfusion) rfl rfl

theorem accounts_lastOutputs (policy : LastOutputs) (h : History) :
    (lastOutputs policy).Accounts h ((lastOutputs policy).rewritten h) :=
  (follows_lastOutputs policy h).accounts (fun _ _ => Processor.noConfusion) rfl rfl

/-- The summary counts what the walk drops. -/
theorem accounts_longOutputs (policy : LongOutputs) (h : History) :
    (longOutputs policy).Accounts h ((longOutputs policy).rewritten h) :=
  (follows_longOutputs policy h).accounts (fun _ _ => Processor.noConfusion) rfl (congrArg some (policy.countP_mask h))

/-- The walk goes from the newest entry to the oldest. -/
theorem accounts_staleWindows (h : History) : staleWindows.Accounts h (staleWindows.rewritten h).reverse := by
  refine accounts_of_traces (fun _ _ => Processor.noConfusion) rfl ?_ ?_ fun i => ?_
  · rw [List.map_reverse, (follows_staleWindows h).map_entry?_revisionEvents, List.map_reverse]
  · rw [List.length_reverse, ← StaleWindows.collapsed_eq_length]
    rfl
  · rw [List.mem_reverse, mem_rewritten]

theorem replaced_failedEdits (policy : FailedEdits) (h : History) :
    (Stats.between h ((failedEdits policy).run h)).replaced = ((failedEdits policy).rewritten h).length :=
  replaced_eq_length (p := failedEdits policy) (fun _ _ => Processor.noConfusion)
    (fun _ _ _ => FailedEdits.ne_content_of_replacement?) h

theorem replaced_lastOutputs (policy : LastOutputs) (h : History) :
    (Stats.between h ((lastOutputs policy).run h)).replaced + ((lastOutputs policy).rewritten h).countP (fun i =>
      h[i]?.map Entry.content == some "Old output omitted (1 lines)") = ((lastOutputs policy).rewritten h).length := by
  refine replaced_add_countP (fun _ _ => Processor.noConfusion) (fun s e content hc => ?_) h
  rw [LastOutputs.eq_of_replacement? (p := policy) hc, omittedNotice_eq_content_iff]

theorem replaced_longOutputs (policy : LongOutputs) (h : History) :
    (Stats.between h ((longOutputs policy).run h)).replaced + ((longOutputs policy).rewritten h).countP (fun i =>
      h[i]?.map Entry.content == some "Old output omitted (1 lines)") = ((longOutputs policy).rewritten h).length := by
  refine replaced_add_countP (fun _ _ => Processor.noConfusion) (fun s e content hc => ?_) h
  rw [LongOutputs.eq_of_replacement? (p := policy) hc, omittedNotice_eq_content_iff]

theorem replaced_staleWindows (h : History) :
    (Stats.between h (staleWindows.run h)).replaced = (staleWindows.rewritten h).length :=
  replaced_eq_length (p := staleWindows) (fun _ _ => Processor.noConfusion)
    (fun _ _ _ => StaleWindows.ne_content_of_replacement?) h

end Processor

/-- **The reports of a policy match what it has done.** Each policy reports a trace line for each entry that it
rewrites, which names its position, from the first position to the last one, or from the last to the first where windows
collapse, and behind these one line for debugging, which states their number. Every failed edit that is replaced and
every window that collapses is altered, and so counts as replaced. An omitted output counts as replaced unless it
already was the notice of one omitted line. The summary on windows also states the number of their files, which is what
the number of collapsed windows lacks of the number of all windows. -/
theorem reports_match_changes (h : History) :
    (∀ policy, ∃ positions, positions.Pairwise (· < ·) ∧ (Processor.failedEdits policy).Accounts h positions ∧
      (Stats.between h ((Processor.failedEdits policy).run h)).replaced = positions.length) ∧
    (∀ policy, ∃ positions, positions.Pairwise (· < ·) ∧ (Processor.lastOutputs policy).Accounts h positions ∧
      (Stats.between h ((Processor.lastOutputs policy).run h)).replaced +
        positions.countP (fun i => h[i]?.map Entry.content == some "Old output omitted (1 lines)") =
          positions.length) ∧
    (∀ policy, ∃ positions, positions.Pairwise (· < ·) ∧ (Processor.longOutputs policy).Accounts h positions ∧
      (Stats.between h ((Processor.longOutputs policy).run h)).replaced +
        positions.countP (fun i => h[i]?.map Entry.content == some "Old output omitted (1 lines)") =
          positions.length) ∧
    (∃ (positions : List Nat) (files : List String), positions.Pairwise (· > ·) ∧
      Processor.staleWindows.Accounts h positions ∧
      (Stats.between h (Processor.staleWindows.run h)).replaced = positions.length ∧
      files.Nodup ∧ (∀ file, file ∈ files ↔ ∃ i, StaleWindows.IsWindowOf h i file) ∧
      (Processor.staleWindows.process h).events.getLast? = some (.windowsSummary positions.length files.length) ∧
      positions.length + files.length = StaleWindows.windowCount h) ∧
    (∀ (event : Event) (i : Nat), event.entry? = some i → ∃ opening closing,
      (closing = "" ∨ closing.toList.head? = some ' ') ∧ event.message = opening ++ " at entry " ++ toString i ++ closing) ∧
    ∀ (event : Event) (count : Nat), event.revised? = some count → ∃ opening closing,
      (closing = "" ∨ closing.toList.head? = some ' ') ∧ event.message = opening ++ "ed " ++ toString count ++ closing := by
  refine ⟨fun policy => ?_, fun policy => ?_, fun policy => ?_, ?_, fun _ _ => Event.exists_message_of_entry?,
    fun _ _ => Event.exists_message_of_revised?⟩
  · exact ⟨_, Processor.pairwise_rewritten _ h, Processor.accounts_failedEdits policy h,
      Processor.replaced_failedEdits policy h⟩
  · exact ⟨_, Processor.pairwise_rewritten _ h, Processor.accounts_lastOutputs policy h,
      Processor.replaced_lastOutputs policy h⟩
  · exact ⟨_, Processor.pairwise_rewritten _ h, Processor.accounts_longOutputs policy h,
      Processor.replaced_longOutputs policy h⟩
  · have hcollapsed := StaleWindows.collapsed_eq_length h
    refine ⟨(Processor.staleWindows.rewritten h).reverse, (StaleWindows.scan h.taskIndex? h.zipIdx).seen,
      List.pairwise_reverse.mpr (Processor.pairwise_rewritten _ h), Processor.accounts_staleWindows h, ?_,
      (StaleWindows.tallied_scan _ _).nodup_seen, fun _ => StaleWindows.mem_seen_iff, ?_, ?_⟩
    · rw [List.length_reverse, Processor.replaced_staleWindows]
    · rw [List.length_reverse, ← hcollapsed]
      exact List.getLast?_concat
    · rw [List.length_reverse, ← hcollapsed, StaleWindows.windowCount_eq]

/-- A notice of one line is omitted once more, and stays the same. -/
example : (Processor.lastOutputs { n := 1, pos := by decide }).rewritten
      [{ role := .user, content := "task" }, { role := .user, content := "Old output omitted (1 lines)" },
        { role := .user, content := "a\nb" }, { role := .user, content := "done" }] = [1, 2] ∧
    ((Processor.lastOutputs { n := 1, pos := by decide }).run
      [{ role := .user, content := "task" }, { role := .user, content := "Old output omitted (1 lines)" },
        { role := .user, content := "a\nb" }, { role := .user, content := "done" }]).map Entry.content =
      ["task", "Old output omitted (1 lines)", "Old output omitted (2 lines)", "done"] := by
  decide

end Compaction
