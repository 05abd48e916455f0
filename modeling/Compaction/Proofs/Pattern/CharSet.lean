import Compaction.Pattern.CharSet
import Mathlib.Data.List.Infix
import Mathlib.Tactic.SplitIfs

/-!
# Reading sets of characters

* `IsBehind` : a text is what is left behind one character of another text, or behind more;
* `Mode.skipBlank_suffix`, `escape?_isBehind`, `behindItem?_isBehind`, `charSet?_suffix` : what is left of a text is an end
  of it;
* `closing?_step` : what one step does, however many are left;
* `closing?_congr` : one step for each character is enough, so their number decides nothing.
-/

namespace Compaction.Pattern

variable {mode : Mode} {cs rest : List Char}

/-! ## Ends of a text -/

/-- The text is what is left behind the first character of another one, or behind more of it. -/
def IsBehind (rest cs : List Char) : Prop := rest <:+ cs.tail ∧ cs ≠ []

theorem isBehind_cons {c : Char} : IsBehind rest (c :: cs) ↔ rest <:+ cs := by simp [IsBehind]

theorem IsBehind.suffix (h : IsBehind rest cs) : rest <:+ cs := h.1.trans (List.tail_suffix cs)

theorem IsBehind.length_lt (h : IsBehind rest cs) : rest.length < cs.length := by
  have hle := h.1.length_le
  have hpos := List.length_pos_iff.mpr h.2
  rw [List.length_tail] at hle
  omega

theorem IsBehind.trans_suffix {more : List Char} (h : IsBehind rest more) (hmore : more <:+ cs) : IsBehind rest cs := by
  obtain ⟨front, rfl⟩ := hmore
  cases front with
  | nil => exact h
  | cons c front => exact isBehind_cons.mpr (h.suffix.trans (List.suffix_append front more))

theorem IsBehind.suffix_trans {more : List Char} (h : IsBehind more cs) (hrest : rest <:+ more) : IsBehind rest cs :=
  ⟨hrest.trans h.1, h.2⟩

/-! ## Blanks and flags -/

theorem behindBlank_suffix (comment : Bool) (cs : List Char) : behindBlank comment cs <:+ cs := by
  fun_induction behindBlank comment cs with
  | case1 => exact List.suffix_rfl
  | case2 c cs ih => exact ih.trans (List.suffix_cons c cs)
  | case3 _ c cs _ _ ih => exact ih.trans (List.suffix_cons c cs)
  | case4 _ c cs _ _ _ ih => exact ih.trans (List.suffix_cons c cs)
  | case5 => exact List.suffix_rfl

theorem Mode.skipBlank_suffix (mode : Mode) (cs : List Char) : mode.skipBlank cs <:+ cs := by
  unfold Mode.skipBlank
  split
  · exact behindBlank_suffix false cs
  · exact List.suffix_rfl

theorem isBehind_of_skipBlank {c : Char} (h : mode.skipBlank cs = c :: rest) : IsBehind rest cs :=
  (isBehind_cons.mpr List.suffix_rfl).trans_suffix (h ▸ mode.skipBlank_suffix cs)

/-- Nothing in front of what is read next stands for nothing. -/
theorem behindBlank_eq_cons {comment : Bool} {c : Char} (h : behindBlank comment cs = c :: rest) :
    Text.isWhiteSpace c = false ∧ c ≠ '#' := by
  fun_induction behindBlank comment cs with
  | case1 => cases h
  | case2 _ _ ih => exact ih h
  | case3 _ _ _ _ _ ih => exact ih h
  | case4 _ _ _ _ _ _ ih => exact ih h
  | case5 _ d _ _ hblank hmark =>
    obtain ⟨rfl, -⟩ := List.cons.inj h
    exact ⟨by simpa using hblank, by simpa using hmark⟩

theorem Mode.skipBlank_skipBlank (mode : Mode) (cs : List Char) :
    mode.skipBlank (mode.skipBlank cs) = mode.skipBlank cs := by
  unfold Mode.skipBlank
  split
  · cases hleft : behindBlank false cs with
    | nil => rfl
    | cons c rest =>
      obtain ⟨hblank, hmark⟩ := behindBlank_eq_cons hleft
      simp [behindBlank, hblank, hmark]
  · rfl

theorem flags?_suffix {flags : List Char} (h : flags? cs = some (flags, rest)) : rest <:+ cs := by
  simp only [flags?] at h
  split at h
  · obtain ⟨-, rfl⟩ := Prod.mk.inj (Option.some.inj h)
    exact List.dropWhile_suffix _
  · cases h

/-! ## Escapes -/

/-- Each digit is a character of the text. -/
theorem hexNumber?_suffix {value digits code : Nat} (h : hexNumber? mode value digits cs = some (code, rest)) :
    rest <:+ cs ∧ rest.length + digits ≤ cs.length := by
  induction digits generalizing value cs with
  | zero =>
    obtain ⟨-, rfl⟩ := Prod.mk.inj (Option.some.inj h)
    exact ⟨List.suffix_rfl, Nat.le_refl _⟩
  | succ digits ih =>
    simp only [hexNumber?] at h
    split at h
    case h_1 => cases h
    case h_2 c more hmore =>
      obtain ⟨digit, -, hrest⟩ := Option.bind_eq_some_iff.mp h
      obtain ⟨hsuffix, hlength⟩ := ih hrest
      have hbehind := isBehind_of_skipBlank hmore
      have hlt := hbehind.length_lt
      exact ⟨hsuffix.trans hbehind.suffix, by omega⟩

theorem coded?_suffix {digits : Nat} {atom : Atom} (h : coded? mode digits cs = some (atom, rest)) : rest <:+ cs := by
  obtain ⟨⟨code, more⟩, hnumber, hchar⟩ := Option.bind_eq_some_iff.mp h
  dsimp only at hchar
  split at hchar
  · obtain ⟨-, rfl⟩ := Prod.mk.inj (Option.some.inj hchar)
    exact (hexNumber?_suffix hnumber).1
  · cases hchar

theorem property?_suffix {atom : Atom} (h : property? mode cs = some (atom, rest)) : rest <:+ cs := by
  simp only [property?] at h
  split at h
  case h_1 => cases h
  case h_2 c more hmore =>
    split at h
    · obtain ⟨-, rfl⟩ := Prod.mk.inj (Option.some.inj h)
      exact (isBehind_of_skipBlank hmore).suffix
    · cases h

theorem escape?_isBehind {atom : Atom} (h : escape? mode cs = some (atom, rest)) : IsBehind rest cs := by
  cases cs with
  | nil => cases h
  | cons c cs =>
    refine isBehind_cons.mpr ?_
    have hrest : ∀ a : Atom, some (a, cs) = some (atom, rest) → rest <:+ cs := fun a heq =>
      (Prod.mk.inj (Option.some.inj heq)).2 ▸ List.suffix_rfl
    simp only [escape?] at h
    split_ifs at h
    iterate 3 exact coded?_suffix h
    · exact property?_suffix h
    iterate 5 exact hrest _ h
    · obtain ⟨d, -, hd⟩ := Option.map_eq_some_iff.mp h
      exact hrest _ (congrArg some hd)

/-! ## Sets of characters -/

theorem OpenSet.start_suffix {set : OpenSet} (h : OpenSet.start mode cs = (set, rest)) : rest <:+ cs := by
  simp only [OpenSet.start] at h
  split at h
  case h_1 more hmore =>
    obtain ⟨-, rfl⟩ := Prod.mk.inj h
    exact (isBehind_of_skipBlank hmore).suffix
  case h_2 =>
    obtain ⟨-, rfl⟩ := Prod.mk.inj h
    exact mode.skipBlank_suffix cs

theorem namedClass?_suffix {negated : Bool} (h : namedClass? cs = some (negated, rest)) : rest <:+ cs := by
  unfold namedClass? at h
  split at h
  case h_2 => cases h
  case h_1 cs =>
    have hname : (if (cs.head? == some '^') = true then cs.drop 1 else cs) <:+ cs := by
      split
      · exact List.drop_suffix 1 cs
      · exact List.suffix_rfl
    dsimp only at h
    split at h
    case h_2 => cases h
    case h_1 more hmore =>
      have hleft : (':' :: ']' :: more) <:+ cs := (hmore ▸ List.dropWhile_suffix _).trans hname
      obtain ⟨-, heq⟩ := Option.ite_none_right_eq_some.mp h
      obtain ⟨-, rfl⟩ := Prod.mk.inj (Option.some.inj heq)
      exact (((List.suffix_cons _ _).trans (List.suffix_cons _ _)).trans hleft).trans (List.suffix_cons _ _)

theorem atom?_isBehind {atom : Atom} (h : atom? mode cs = some (atom, rest)) : IsBehind rest cs := by
  unfold atom? at h
  split at h
  · cases h
  · exact isBehind_cons.mpr (escape?_isBehind h).suffix
  · obtain ⟨-, rfl⟩ := Prod.mk.inj (Option.some.inj h)
    exact isBehind_cons.mpr List.suffix_rfl

theorem behindItem?_isBehind (h : behindItem? mode cs = some rest) : IsBehind rest cs := by
  simp only [behindItem?, Option.bind_eq_bind] at h
  obtain ⟨⟨first, more⟩, hfirst, hmore⟩ := Option.bind_eq_some_iff.mp h
  have hbehind := atom?_isBehind hfirst
  dsimp only at hmore
  split at hmore
  case h_1 last hlast =>
    split_ifs at hmore
    · exact Option.some.inj hmore ▸ hlast ▸ hbehind.suffix_trans (mode.skipBlank_suffix more)
    · obtain ⟨⟨second, left⟩, hsecond, hbounds⟩ := Option.bind_eq_some_iff.mp hmore
      obtain ⟨low, -, hbounds⟩ := Option.bind_eq_some_iff.mp hbounds
      obtain ⟨high, -, hbounds⟩ := Option.bind_eq_some_iff.mp hbounds
      split_ifs at hbounds
      have hleft := (atom?_isBehind hsecond).suffix.trans (mode.skipBlank_suffix last)
      exact Option.some.inj hbounds ▸
        hbehind.suffix_trans (hleft.trans (isBehind_of_skipBlank hlast).suffix)
  case h_2 =>
    split_ifs at hmore
    exact Option.some.inj hmore ▸ hbehind.suffix_trans (mode.skipBlank_suffix more)

/-- What a step does does not depend on how many are left: it decides the depth of the set, or it goes on behind one
character at least. -/
theorem closing?_step (mode : Mode) (set : OpenSet) (around : List OpenSet) (cs : List Char) :
    (∃ result, (∀ steps, closing? mode (steps + 1) set around cs = result) ∧
      ∀ depth rest, result = some (depth, rest) → IsBehind rest cs) ∨
    ∃ set' around' rest, IsBehind rest cs ∧
      ∀ steps, closing? mode (steps + 1) set around cs = closing? mode steps set' around' rest := by
  -- The cases are the branches of the definition, of which only the number of steps left is not looked at.
  simp only [closing?]
  have hfails : ∀ depth rest, (none : Option (Nat × List Char)) = some (depth, rest) → IsBehind rest cs :=
    fun _ _ h => nomatch h
  cases hcs : mode.skipBlank cs with
  | nil => exact .inl ⟨none, fun _ => rfl, hfails⟩
  | cons c rest =>
    have hrest : IsBehind rest cs := isBehind_of_skipBlank hcs
    dsimp only
    split_ifs with hfresh hclose hopen hoperation
    · exact .inr ⟨_, _, _, hrest, fun _ => rfl⟩
    · cases set.close? mode with
      | none => exact .inl ⟨none, fun _ => rfl, hfails⟩
      | some depth =>
        cases around with
        | nil =>
          refine .inl ⟨some (depth, rest), fun _ => rfl, fun _ _ h => ?_⟩
          obtain ⟨-, rfl⟩ := Prod.mk.inj (Option.some.inj h)
          exact hrest
        | cons parent around => exact .inr ⟨_, _, _, hrest, fun _ => rfl⟩
    · cases hclass : namedClass? rest with
      | none => exact .inr ⟨_, _, _, hrest.suffix_trans (OpenSet.start_suffix rfl), fun _ => rfl⟩
      | some class' =>
        obtain ⟨negated, more⟩ := class'
        dsimp only
        split_ifs
        · exact .inr ⟨_, _, _, hrest.suffix_trans (namedClass?_suffix hclass), fun _ => rfl⟩
        · exact .inl ⟨none, fun _ => rfl, hfails⟩
    · exact .inr ⟨_, _, _, hrest.suffix_trans (List.drop_suffix 1 rest), fun _ => rfl⟩
    · cases hitem : behindItem? mode (c :: rest) with
      | none => exact .inl ⟨none, fun _ => rfl, hfails⟩
      | some more =>
        have hmore := (behindItem?_isBehind hitem).trans_suffix (hcs ▸ mode.skipBlank_suffix cs)
        exact .inr ⟨_, _, _, hmore, fun _ => rfl⟩

/-- One step for each character, and one for the end of the text, is enough. -/
theorem closing?_congr {steps steps' : Nat} (set : OpenSet) (around : List OpenSet) (h : cs.length < steps)
    (h' : cs.length < steps') : closing? mode steps set around cs = closing? mode steps' set around cs := by
  induction steps generalizing steps' set around cs with
  | zero => exact absurd h (Nat.not_lt_zero _)
  | succ steps ih =>
    cases steps' with
    | zero => exact absurd h' (Nat.not_lt_zero _)
    | succ steps' =>
      rcases closing?_step mode set around cs with ⟨result, hresult, -⟩ | ⟨set', around', rest, hrest, hmoves⟩
      · rw [hresult, hresult]
      · have hlt := hrest.length_lt
        rw [hmoves, hmoves]
        exact ih set' around' (by omega) (by omega)

theorem closing?_isBehind {steps depth : Nat} {set : OpenSet} {around : List OpenSet}
    (h : closing? mode steps set around cs = some (depth, rest)) : IsBehind rest cs := by
  induction steps generalizing set around cs with
  | zero => cases h
  | succ steps ih =>
    rcases closing?_step mode set around cs with ⟨_, hresult, hbehind⟩ | ⟨_, _, more, hmore, hmoves⟩
    · exact hbehind depth rest (hresult steps ▸ h)
    · exact (ih (hmoves steps ▸ h)).trans_suffix hmore.suffix

theorem charSet?_suffix {depth : Nat} (h : charSet? mode cs = some (depth, rest)) : rest <:+ cs :=
  (closing?_isBehind h).suffix.trans (OpenSet.start_suffix rfl)

end Compaction.Pattern
