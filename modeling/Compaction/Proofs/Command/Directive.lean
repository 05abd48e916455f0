import Compaction.Command.Directive
import Compaction.Proofs.Text.CharClass
import Compaction.Text.Scan
import Mathlib.Tactic.ByContra
import Mathlib.Tactic.SplitIfs

/-!
# Written directives

* `Source.ofText_ofList`, `Source.onFrom_eq`, `Source.cut_eq` : without white space around it, a text is cut where its parts
  are found;
* `Parts` : a directive as it is written, by its target, what stands in brackets, and the level behind an equals sign;
* `Parts.directive?` : what the parts stand for;
* `ofText?_text` : that is what is read from them;
* `covers_iff`, `specificity_le_iff` : the events that a directive is about, and the order in which directives are asked.
-/

namespace Compaction.Command

open Text (isWhiteSpace dropWhile_run)

variable {front target field span rest cs : List Char} {c : Char}

/-! ## Sources -/

theorem dropWhile_eq_self {p : Char → Bool} (h : ∀ c ∈ cs.head?, p c = false) : cs.dropWhile p = cs := by
  simpa using dropWhile_run (List.forall_mem_nil _) h

namespace Source

theorem onFrom_eq (front rest : List Char) : onFrom ⟨front ++ rest, front ++ rest⟩ rest = rest := by
  rw [onFrom, Text.byteCount_append, Nat.add_sub_cancel_right, Text.dropBytes_append]

theorem cut_eq (before part stop : List Char) :
    cut ⟨before ++ (part ++ stop), before ++ (part ++ stop)⟩ (part ++ stop) stop = part := by
  rw [cut, onFrom_eq, Text.byteCount_append, Nat.add_sub_cancel_right, Text.takeBytes_append]

theorem ofText_ofList (hhead : ∀ c ∈ cs.head?, isWhiteSpace c = false)
    (hlast : ∀ c ∈ cs.getLast?, isWhiteSpace c = false) : ofText (String.ofList cs) = ⟨cs, cs⟩ := by
  rw [ofText, String.toList_ofList, dropWhile_eq_self hhead, dropWhile_eq_self (by rwa [List.head?_reverse]),
    List.reverse_reverse]

end Source

namespace Directive

theorem isWhiteSpace_eq_false_of_isStart (h : isStart c = true) : isWhiteSpace c = false := by
  by_contra hblank
  rw [Bool.not_eq_false] at hblank
  simp only [isStart, Text.isAlphanumeric_eq_false_of_isWhiteSpace hblank, Bool.or_false, Bool.or_eq_true,
    beq_iff_eq] at h
  rcases h with ((rfl | rfl) | rfl) | rfl <;> revert hblank <;> decide

/-! ## Brackets -/

/-- What stands in brackets: the name of a span, which may be empty, and perhaps a field in braces. -/
structure Brackets where
  span : List Char
  field : Option (List Char)

namespace Brackets

/-- The text behind the opening bracket, up to the closing one. -/
def text (b : Brackets) : List Char :=
  match b.field with
  | none => b.span ++ [']']
  | some field => b.span ++ '{' :: (field ++ ['}', ']'])

def scope? (b : Brackets) : Option Scope :=
  match b.field with
  | none => some .span
  | some field => fieldScope? (!b.span.isEmpty) field

/-- The name and the field end where their brackets do. -/
structure IsClean (b : Brackets) : Prop where
  span : ∀ c ∈ b.span, c ≠ ']' ∧ c ≠ '{'
  field : ∀ field ∈ b.field, '}' ∉ field

end Brackets

theorem scope?_text {b : Brackets} (hb : b.IsClean) (front rest : List Char) :
    scope? ⟨front ++ (b.text ++ rest), front ++ (b.text ++ rest)⟩ (b.text ++ rest) =
      b.scope?.map fun scope => (scope, rest) := by
  obtain ⟨span, field⟩ := b
  have hspan : ∀ c ∈ span, (c != ']' && c != '{') = true := fun c hc => by simpa using hb.span c hc
  cases field with
  | none =>
    have hdrop : (span ++ ']' :: rest).dropWhile (fun c => c != ']' && c != '{') = ']' :: rest :=
      dropWhile_run hspan (by simp)
    simp only [Brackets.text, Brackets.scope?, List.append_assoc, List.singleton_append, scope?, hdrop, Option.map_some]
  | some field =>
    have hfield : ∀ c ∈ field, (c != '}') = true := fun c hc =>
      bne_iff_ne.mpr fun heq => hb.field field rfl (heq ▸ hc)
    have hdrop : (span ++ '{' :: (field ++ '}' :: ']' :: rest)).dropWhile (fun c => c != ']' && c != '{') =
        '{' :: (field ++ '}' :: ']' :: rest) := dropWhile_run hspan (by simp)
    have hinner : (field ++ '}' :: ']' :: rest).dropWhile (· != '}') = '}' :: ']' :: rest :=
      dropWhile_run hfield (by simp)
    have hhead : ((span ++ '{' :: (field ++ '}' :: ']' :: rest)).head? != some '{') = !span.isEmpty := by
      cases span with
      | nil => rfl
      | cons c span => simpa using (hb.span c List.mem_cons_self).2
    have hcut := Source.cut_eq (front ++ span ++ ['{']) field ('}' :: ']' :: rest)
    simp only [List.append_assoc, List.singleton_append] at hcut
    simp only [Brackets.text, Brackets.scope?, List.append_assoc, List.cons_append, List.nil_append, scope?, hdrop, hhead]
    split
    case h_1 heq => exact absurd (List.cons.inj heq).1 (by decide)
    case h_2 inner heq =>
      obtain rfl := (List.cons.inj heq).2
      simp only [hinner, hcut]
    case h_3 heq => cases heq

/-! ## Parts -/

/-- A directive as it is written. A level behind an equals sign may be empty. -/
structure Parts where
  target : List Char := []
  brackets : Option Brackets := none
  level : Option (List Char) := none

namespace Parts

def bracketsText (parts : Parts) : List Char := parts.brackets.elim [] fun b => '[' :: b.text

def levelText (parts : Parts) : List Char := parts.level.elim [] fun level => '=' :: level

def text (parts : Parts) : List Char := parts.target ++ (parts.bracketsText ++ parts.levelText)

/-- Each part ends where the next one starts, and there is no white space around the text. -/
structure IsClean (parts : Parts) : Prop where
  start : parts.text.head?.any isStart = true
  target : ∀ c ∈ parts.target, c ≠ '=' ∧ c ≠ '['
  brackets : ∀ b ∈ parts.brackets, b.IsClean
  last : ∀ c ∈ parts.text.getLast?, isWhiteSpace c = false

/-- The rank of the level; all levels are shown if there is none. -/
def rank? (parts : Parts) : Option Nat :=
  match parts.level with
  | none | some [] => some Level.trace.rank
  | some level => rankOf? (String.ofList level)

/-- The directive that the parts stand for. What stands alone is a level, if it can be one. -/
def directive? (parts : Parts) : Option Directive :=
  match parts.brackets, parts.level with
  | none, none =>
    let word := String.ofList parts.target
    some (((rankOf? word).map fun rank => { rank }).getD { target := word })
  | brackets, _ =>
    (brackets.elim (some .all) Brackets.scope?).bind fun scope =>
      parts.rank?.map fun rank => { target := String.ofList parts.target, scope, rank }

end Parts

variable {parts : Parts}

theorem withLevel?_levelText (parts : Parts) (front : List Char) (target : String) (scope : Scope) :
    withLevel? { target, scope } ⟨front ++ parts.levelText, front ++ parts.levelText⟩ parts.levelText =
      parts.rank?.map fun rank => { target, scope, rank } := by
  obtain ⟨_, _, level⟩ := parts
  cases level with
  | none => rfl
  | some level =>
    have hlevel : Source.onFrom ⟨front ++ '=' :: level, front ++ '=' :: level⟩ level = level := by
      simpa using Source.onFrom_eq (front ++ ['=']) level
    simp only [Parts.levelText, Option.elim_some, withLevel?, hlevel]
    cases level <;> rfl

theorem dropWhile_text (hparts : parts.IsClean) :
    parts.text.dropWhile (fun c => c != '=' && c != '[') = parts.bracketsText ++ parts.levelText := by
  obtain ⟨target, brackets, level⟩ := parts
  refine dropWhile_run (fun c hc => by simpa using hparts.target c hc) ?_
  cases brackets <;> cases level <;> simp [Parts.bracketsText, Parts.levelText]

/-- **A directive is read by its parts.** -/
theorem ofText?_text (hparts : parts.IsClean) : ofText? (String.ofList parts.text) = parts.directive? := by
  have hhead : ∀ c ∈ parts.text.head?, isWhiteSpace c = false := fun c hc =>
    isWhiteSpace_eq_false_of_isStart (by simpa [Option.mem_def.mp hc] using hparts.start)
  have hsource := Source.ofText_ofList hhead hparts.last
  have htarget : Source.cut ⟨parts.text, parts.text⟩ parts.text (parts.bracketsText ++ parts.levelText) = parts.target :=
    Source.cut_eq [] _ _
  simp only [ofText?, hsource, hparts.start, dropWhile_text hparts, htarget, Bool.not_true, Bool.false_eq_true, if_false]
  obtain ⟨target, brackets, level⟩ := parts
  cases brackets with
  | none =>
    cases level with
    | none => simp [Parts.bracketsText, Parts.levelText, Parts.text, Parts.directive?]
    | some level =>
      exact withLevel?_levelText ⟨target, none, some level⟩ target (String.ofList target) .all
  | some b =>
    have hscope := scope?_text (hparts.brackets b rfl) (target ++ ['[']) (Parts.levelText ⟨target, some b, level⟩)
    have hlevel (scope : Scope) := withLevel?_levelText ⟨target, some b, level⟩ (target ++ '[' :: b.text)
      (String.ofList target) scope
    simp only [List.append_assoc, List.cons_append, List.nil_append] at hscope hlevel
    simp only [Parts.text, Parts.bracketsText, Option.elim_some, List.cons_append, hscope, Parts.directive?]
    cases b.scope? with
    | none => rfl
    | some scope => exact hlevel scope

/-! ## Events -/

theorem covers_iff {d : Directive} {event : Event} :
    d.covers event = true ↔
      d.target.toList <+: event.target.toList ∧ (d.scope = .all ∨ d.scope = .field "message") := by
  obtain ⟨target, scope, rank⟩ := d
  cases scope <;> simp [covers]

/-- The longer target counts first, and then the field. -/
theorem specificity_le_iff {d e : Directive} :
    d.specificity ≤ e.specificity ↔ d.target.length < e.target.length ∨
      d.target.length = e.target.length ∧ (e.scope = .all → d.scope = .all) := by
  unfold specificity
  split_ifs with hd he he <;> simp [hd, he] <;> omega

end Directive

end Compaction.Command
