import Compaction.Command.Run
import Compaction.Proofs.Command.Directive
import Compaction.Proofs.Text.Quoted

/-!
# What is logged

* `Filter.ofText?_intercalate` : directives with commas between them are read one by one;
* `Filter.IsDecisive` : the directive that decides about an event, as no other one for it is more specific, and none behind
  it is as specific;
* `Filter.shows_iff` : an event is shown if its level is no more detailed than that directive asks;
* `logText_eq_empty` : without a flag or a filter for it, nothing is logged;
* `Steers`, `not_steers_of_mem_logText` : no character of the log steers a terminal.
-/

namespace Compaction.Command

variable {d e : Directive} {ds : List Directive} {event : Event} {filter : Filter}

namespace Filter

/-! ## Written filters -/

/-- Directives with commas between them are read one by one, and the empty ones are passed over. -/
theorem ofText?_intercalate (texts : List String) (hcomma : ∀ text ∈ texts, ',' ∉ text.toList) :
    ofText? (",".intercalate texts) = (texts.filter (· ≠ "")).mapM Directive.ofText? := by
  cases htexts : texts with
  | nil => rfl
  | cons first more =>
    rw [← htexts]
    have hsplit : (",".intercalate texts).toList.splitOn ',' = texts.map String.toList := by
      rw [String.toList_intercalate]
      exact List.splitOn_intercalate ',' (by simpa using hcomma) (by simp [htexts])
    have hempty : (fun part : List Char => !part.isEmpty) ∘ String.toList = fun text => decide (text ≠ "") := by
      funext text
      rw [Bool.eq_iff_iff]
      simp
    have hread : (fun part => Directive.ofText? (String.ofList part)) ∘ String.toList = Directive.ofText? := by
      funext text
      simp
    rw [ofText?, hsplit, List.filter_map, List.mapM_map, hempty, hread]

/-! ## Decisions -/

/-- None of the directives in front is more specific, and none behind is as specific. -/
structure Outranks (before : List Directive) (d : Directive) (after : List Directive) : Prop where
  before : ∀ e ∈ before, e.specificity ≤ d.specificity
  after : ∀ e ∈ after, e.specificity < d.specificity

theorem foldl_better_of_lt (h : ∀ e ∈ ds, e.specificity < d.specificity) : ds.foldl better (some d) = some d := by
  induction ds with
  | nil => rfl
  | cons e ds ih =>
    rw [List.forall_mem_cons] at h
    rw [List.foldl_cons, better, if_neg (Nat.not_le.mpr h.1), ih h.2]

theorem mem_of_foldl_better (h : ds.foldl better none = some d) : d ∈ ds := by
  induction ds using List.reverseRecOn with
  | nil => cases h
  | append_singleton ds e ih =>
    rw [List.foldl_append, List.foldl_cons, List.foldl_nil] at h
    have hlast (heq : some e = some d) : d ∈ ds ++ [e] :=
      List.mem_append_right ds (List.mem_singleton.mpr (Option.some.inj heq).symm)
    cases hbest : ds.foldl better none with
    | none =>
      rw [hbest] at h
      exact hlast h
    | some old =>
      rw [hbest, better] at h
      split at h
      · exact hlast h
      · exact List.mem_append_left [e] (ih (hbest.trans h))

theorem foldl_better_of_outranks {before after : List Directive} (h : Outranks before d after) :
    (before ++ d :: after).foldl better none = some d := by
  have hd : better (before.foldl better none) d = some d := by
    cases hbest : before.foldl better none with
    | none => rfl
    | some old => rw [better, if_pos (h.before old (mem_of_foldl_better hbest))]
  rw [List.foldl_append, List.foldl_cons, hd, foldl_better_of_lt h.after]

/-- Among some directives, there is a last one of the most specific. -/
theorem exists_outranks (hne : ds ≠ []) : ∃ before d after, ds = before ++ d :: after ∧ Outranks before d after := by
  -- From the end: the last directive of all takes over unless it is less specific than the one found before it.
  induction ds using List.reverseRecOn with
  | nil => exact absurd rfl hne
  | append_singleton ds e ih =>
    rcases List.eq_nil_or_concat ds with rfl | hds
    · exact ⟨[], e, [], rfl, by simp, by simp⟩
    · obtain ⟨before, d, after, rfl, hbefore, hafter⟩ := ih (by rcases hds with ⟨_, _, rfl⟩; simp)
      by_cases hle : d.specificity ≤ e.specificity
      · refine ⟨before ++ d :: after, e, [], rfl, ?_, by simp⟩
        intro f hf
        rcases List.mem_append.mp hf with hf | hf
        · exact (hbefore f hf).trans hle
        · rcases List.mem_cons.mp hf with rfl | hf
          · exact hle
          · exact (hafter f hf).le.trans hle
      · refine ⟨before, d, after ++ [e], by simp, hbefore, ?_⟩
        intro f hf
        rcases List.mem_append.mp hf with hf | hf
        · exact hafter f hf
        · exact List.mem_singleton.mp hf ▸ Nat.not_le.mp hle

theorem foldl_better_eq_some_iff :
    ds.foldl better none = some d ↔ ∃ before after, ds = before ++ d :: after ∧ Outranks before d after := by
  constructor
  · intro h
    obtain ⟨before, best, after, hds, hbest⟩ := exists_outranks (List.ne_nil_of_mem (mem_of_foldl_better h))
    obtain rfl : best = d := Option.some.inj ((hds ▸ foldl_better_of_outranks hbest).symm.trans h)
    exact ⟨before, after, hds, hbest⟩
  · rintro ⟨before, after, rfl, h⟩
    exact foldl_better_of_outranks h

/-- The directive covers the event; no other one that does is more specific, and none behind it as specific. -/
def IsDecisive (filter : Filter) (event : Event) (d : Directive) : Prop :=
  ∃ before after, filter = before ++ d :: after ∧ d.covers event = true ∧
    (∀ e ∈ before, e.covers event = true → e.specificity ≤ d.specificity) ∧
    ∀ e ∈ after, e.covers event = true → e.specificity < d.specificity

theorem isDecisive_iff : IsDecisive filter event d ↔
    (filter.filter fun e => e.covers event).foldl better none = some d := by
  rw [foldl_better_eq_some_iff]
  constructor
  · rintro ⟨before, after, rfl, hcovers, hbefore, hafter⟩
    refine ⟨before.filter fun e => e.covers event, after.filter fun e => e.covers event, ?_, ?_, ?_⟩
    · rw [List.filter_append, List.filter_cons, if_pos hcovers]
    · exact fun e he => hbefore e (List.mem_filter.mp he).1 (List.mem_filter.mp he).2
    · exact fun e he => hafter e (List.mem_filter.mp he).1 (List.mem_filter.mp he).2
  · rintro ⟨before, after, heq, hbefore, hafter⟩
    obtain ⟨front, back, rfl, rfl, hback⟩ := List.filter_eq_append_iff.mp heq
    obtain ⟨skipped, after', rfl, hskipped, hcovers, rfl⟩ := List.filter_eq_cons_iff.mp hback
    refine ⟨front ++ skipped, after', by simp, hcovers, ?_, ?_⟩
    · intro e he hcov
      rcases List.mem_append.mp he with he | he
      · exact hbefore e (List.mem_filter.mpr ⟨he, hcov⟩)
      · exact absurd hcov (hskipped e he)
    · exact fun e he hcov => hafter e (List.mem_filter.mpr ⟨he, hcov⟩)

/-- An event is shown if its level is no more detailed than the decisive directive asks. -/
theorem shows_iff : filter.shows event = true ↔ ∃ d, IsDecisive filter event d ∧ event.level.rank ≤ d.rank := by
  simp only [shows, isDecisive_iff]
  cases (filter.filter fun e => e.covers event).foldl better none <;> simp

theorem shows_upTo (level : Level) (event : Event) :
    (upTo level).shows event = true ↔ event.level.rank ≤ level.rank := by
  simp [upTo, shows, Directive.covers, better]

end Filter

/-! ## A silent log -/

/-- No event is a warning or an error. -/
theorem warn_rank_lt (event : Event) : Level.warn.rank < event.level.rank := by
  cases event <;> simp [Event.level, Level.rank]

/-- With neither the flag nor a filter, only warnings would be shown. -/
theorem logText_eq_empty {o : Options} {w : World} (hverbose : o.verbose = false) (hfilter : w.logFilter = none)
    (events : List Event) : logText o w events = "" := by
  have hnone : events.filter (Filter.upTo .warn).shows = [] := by
    rw [List.filter_eq_nil_iff]
    intro event _
    rw [Filter.shows_upTo]
    exact Nat.not_le.mpr (warn_rank_lt event)
  unfold logText
  rw [hverbose, hfilter]
  show String.join ((events.filter (Filter.upTo .warn).shows).map logLine) = ""
  rw [hnone]
  rfl

/-! ## Characters of the log -/

/-- A control character that could steer a terminal. -/
def Steers (c : Char) : Prop :=
  c ∈ ['\x1b', '\x07', '\x08', '\x0c', '\x7f'] ∨ 0x80 ≤ c.toNat ∧ c.toNat ≤ 0x9F

instance (c : Char) : Decidable (Steers c) := inferInstanceAs (Decidable (_ ∨ _))

theorem not_steers_of_all {cs : List Char} (h : cs.all (fun c => !decide (Steers c)) = true) :
    ∀ c ∈ cs, ¬ Steers c := by
  simpa using h

theorem not_steers_of_mem_logChar {c b : Char} (h : b ∈ logChar c) : ¬ Steers b := by
  unfold logChar at h
  split_ifs at h with hcontrol hlatin
  · simp only [Bool.or_eq_true, beq_iff_eq] at hcontrol
    rcases hcontrol with (((rfl | rfl) | rfl) | rfl) | rfl <;> exact not_steers_of_all (by decide) b h
  · have hdigits : ∀ digit < 16, ¬ Steers (Nat.digitChar digit) := by decide
    simp only [List.cons_append, List.mem_cons, List.mem_append, List.not_mem_nil, or_false] at h
    rcases h with rfl | rfl | rfl | hdigit | rfl
    iterate 3 decide
    · obtain ⟨digit, hlt, rfl⟩ := Text.mem_hexDigits hdigit
      exact hdigits digit hlt
    · decide
  · obtain rfl := List.mem_singleton.mp h
    simp only [Bool.or_eq_true, beq_iff_eq, Bool.and_eq_true, decide_eq_true_eq] at hcontrol hlatin
    simp only [Steers, List.mem_cons, List.not_mem_nil, or_false]
    tauto

theorem not_steers_of_mem_logLine {c : Char} (h : c ∈ (logLine event).toList) : ¬ Steers c := by
  have hlabel : ∀ b ∈ event.level.label.toList, ¬ Steers b := by
    cases event.level <;> exact not_steers_of_all (by decide)
  have htarget : ∀ b ∈ event.target.toList, ¬ Steers b := by
    cases event <;> dsimp only [Event.target] <;> exact not_steers_of_all (by decide)
  simp only [logLine, String.toList_append, String.toList_ofList, List.mem_append, List.mem_flatMap] at h
  rcases h with ((((h | h) | h) | h) | ⟨b, -, h⟩) | h
  · exact hlabel c h
  · exact not_steers_of_all (by decide) c h
  · exact htarget c h
  · exact not_steers_of_all (by decide) c h
  · exact not_steers_of_mem_logChar h
  · exact not_steers_of_all (by decide) c h

/-- Whatever a transcript holds, its log cannot steer a terminal. -/
theorem not_steers_of_mem_logText {o : Options} {w : World} {events : List Event} {c : Char}
    (h : c ∈ (logText o w events).toList) : ¬ Steers c := by
  rw [logText, String.toList_join, List.mem_flatMap] at h
  obtain ⟨line, hline, hc⟩ := h
  obtain ⟨event, -, rfl⟩ := List.mem_map.mp hline
  exact not_steers_of_mem_logLine hc

end Compaction.Command
