import Compaction.Pattern.WellFormed
import Compaction.Proofs.Pattern.CharSet
import Mathlib.Logic.Relation

/-!
# Reading patterns

* `Scan.next?_spec` : what a part of a pattern leaves is an end of the text, the names of groups stay apart, and the depth
  does not shrink;
* `Scan.Reaches`, `Scan.finish?_eq_some_iff` : runs of a scan, which the number of steps does not decide;
* `isWellFormed_iff` : what it is to be a pattern;
* `nodup_names`, `length_around_le` : no two groups have one name, and nowhere are more than `maxDepth` of them open;
* `isWellFormed_of_notMem_marks` : a text without special characters is a pattern.
-/

namespace Compaction.Pattern

variable {cs rest : List Char}

/-! ## Depths -/

@[simp]
theorem deepest_cons (depth : Nat) (depths : List Nat) : deepest (depth :: depths) = max depth (deepest depths) := by
  rw [deepest, List.foldl_cons, Nat.max_comm, List.foldl_assoc, deepest]

theorem listDepth_singleton (depth : Nat) : listDepth [depth] = depth := by simp [listDepth, deepest]

theorem le_listDepth_cons (depth : Nat) (depths : List Nat) : depth ≤ listDepth (depth :: depths) := by
  rw [listDepth, deepest_cons]
  omega

theorem listDepth_le_cons (depth : Nat) (depths : List Nat) : listDepth depths ≤ listDepth (depth :: depths) := by
  simp only [listDepth, deepest_cons, List.length_cons]
  split_ifs <;> omega

theorem listDepth_cons_le {depth depth' : Nat} (h : depth ≤ depth') (depths : List Nat) :
    listDepth (depth :: depths) ≤ listDepth (depth' :: depths) := by
  simp only [listDepth, deepest_cons, List.length_cons]
  omega

namespace Group

variable {group : Group}

theorem branchDepth_le_depth (group : Group) : group.branchDepth ≤ group.depth := le_listDepth_cons _ _

/-- A group whose last branch is deeper is at least as deep. -/
theorem depth_le_of_branchDepth_le {group' : Group} (hbranches : group'.branches = group.branches)
    (h : group.branchDepth ≤ group'.branchDepth) : group.depth ≤ group'.depth := by
  rw [depth, depth, hbranches]
  exact listDepth_cons_le h group.branches

theorem depth_le_add (group : Group) (depth : Nat) : group.depth ≤ (group.add depth).depth :=
  depth_le_of_branchDepth_le rfl (listDepth_le_cons _ _)

theorem le_depth_add (group : Group) (depth : Nat) : depth ≤ (group.add depth).depth :=
  (show depth ≤ (group.add depth).branchDepth from le_listDepth_cons depth _).trans (branchDepth_le_depth _)

theorem depth_add_le {depth depth' : Nat} (group : Group) (h : depth ≤ depth') :
    (group.add depth).depth ≤ (group.add depth').depth :=
  depth_le_of_branchDepth_le rfl (listDepth_cons_le h _)

theorem depth_le_branch (group : Group) : group.depth ≤ group.branch.depth := listDepth_le_cons _ _

theorem depth_le_change (group : Group) (flags : List Char) : group.depth ≤ (group.change flags).depth :=
  depth_le_of_branchDepth_le rfl (listDepth_le_cons _ _)

theorem depth_le_repeatLast? {group' : Group} (h : group.repeatLast? = some group') : group.depth ≤ group'.depth := by
  unfold repeatLast? at h
  split at h
  case h_1 depth parts hparts =>
    obtain rfl := Option.some.inj h
    refine depth_le_of_branchDepth_le rfl ?_
    simp only [branchDepth, hparts, List.map_cons, Option.getD_some]
    exact listDepth_cons_le (Nat.le_succ depth) _
  case h_2 => cases h

end Group

/-! ## Scans -/

namespace Scan

variable {scan scan' : Scan} {c : Char}

/-- The depth of the pattern if the open groups, of which the innermost one is apart, all ended here. -/
def depthClosed : Group → List Group → Nat
  | group, [] => group.depth
  | group, parent :: around => depthClosed (parent.add (group.depth + 1)) around

theorem depthClosed_le {group group' : Group} (h : group.depth ≤ group'.depth) (around : List Group) :
    depthClosed group around ≤ depthClosed group' around := by
  induction around generalizing group group' with
  | nil => exact h
  | cons parent around ih => exact ih (parent.depth_add_le (Nat.succ_le_succ h))

theorem length_add_depth_le (group : Group) (around : List Group) :
    around.length + group.depth ≤ depthClosed group around := by
  induction around generalizing group with
  | nil => simp [depthClosed]
  | cons parent around ih =>
    have hparent := parent.le_depth_add (group.depth + 1)
    have houter := ih (parent.add (group.depth + 1))
    rw [depthClosed, List.length_cons]
    omega

/-- What a part of a pattern does to a scan: the names stay apart, and the depth does not shrink. -/
structure Grows (scan scan' : Scan) : Prop where
  nodup : scan.names.Nodup → scan'.names.Nodup
  depth_le : depthClosed scan.group scan.around ≤ depthClosed scan'.group scan'.around

theorem grows_of_group {group : Group} (h : scan.group.depth ≤ group.depth) : scan.Grows { scan with group } :=
  ⟨id, depthClosed_le h scan.around⟩

theorem grows_enter (scan : Scan) (mode : Mode) : scan.Grows (scan.enter mode) :=
  ⟨id, depthClosed_le (scan.group.depth_le_add _) scan.around⟩

theorem grows_leave? (h : scan.leave? = some scan') : scan.Grows scan' := by
  unfold leave? at h
  split at h
  case h_1 => cases h
  case h_2 parent around haround =>
    obtain rfl := Option.some.inj h
    exact ⟨id, by rw [haround, depthClosed]⟩

theorem groupName?_suffix {name : List Char} (h : groupName? cs = some (name, rest)) : rest <:+ cs := by
  unfold groupName? at h
  split at h
  case h_1 first more c left hname hleft =>
    split_ifs at h
    obtain ⟨-, rfl⟩ := Prod.mk.inj (Option.some.inj h)
    exact (List.suffix_cons c _).trans (hleft ▸ List.dropWhile_suffix _)
  case h_2 => cases h

theorem enterNamed?_spec (h : scan.enterNamed? cs = some (scan', rest)) : rest <:+ cs ∧ scan.Grows scan' := by
  obtain ⟨⟨name, left⟩, hname, hnew⟩ := Option.bind_eq_some_iff.mp h
  dsimp only at hnew
  split_ifs at hnew with hmem
  obtain ⟨rfl, rfl⟩ := Prod.mk.inj (Option.some.inj hnew)
  have hfresh : name ∉ scan.names := by simpa using hmem
  exact ⟨groupName?_suffix hname, fun hnodup => List.nodup_cons.mpr ⟨hfresh, hnodup⟩,
    (scan.grows_enter scan.group.mode).depth_le⟩

theorem changed?_spec (h : scan.changed? cs = some (scan', rest)) : rest <:+ cs ∧ scan.Grows scan' := by
  obtain ⟨⟨flags, left⟩, hflags, hnext⟩ := Option.bind_eq_some_iff.mp h
  have hsuffix := flags?_suffix hflags
  split at hnext
  case h_1 _ _ heq =>
    obtain ⟨rfl, rfl⟩ := Prod.mk.inj heq
    obtain ⟨rfl, rfl⟩ := Prod.mk.inj (Option.some.inj hnext)
    exact ⟨(List.suffix_cons _ _).trans hsuffix, scan.grows_enter _⟩
  case h_2 _ _ heq =>
    obtain ⟨rfl, rfl⟩ := Prod.mk.inj heq
    split_ifs at hnext
    obtain ⟨rfl, rfl⟩ := Prod.mk.inj (Option.some.inj hnext)
    exact ⟨(List.suffix_cons _ _).trans hsuffix, grows_of_group (scan.group.depth_le_change _)⟩
  case h_3 => cases hnext

theorem enter?_spec (h : scan.enter? cs = some (scan', rest)) : rest <:+ cs ∧ scan.Grows scan' := by
  have hblank := scan.group.mode.skipBlank_suffix cs
  unfold enter? at h
  split at h
  case h_1 left hleft =>
    obtain ⟨hrest, hgrows⟩ := enterNamed?_spec h
    rw [hleft] at hblank
    exact ⟨(hrest.trans (List.suffix_append ['?', 'P', '<'] left)).trans hblank, hgrows⟩
  case h_2 left hleft =>
    obtain ⟨hrest, hgrows⟩ := enterNamed?_spec h
    rw [hleft] at hblank
    exact ⟨(hrest.trans (List.suffix_append ['?', '<'] left)).trans hblank, hgrows⟩
  case h_3 left _ _ hleft =>
    obtain ⟨hrest, hgrows⟩ := changed?_spec h
    rw [hleft] at hblank
    exact ⟨(hrest.trans (List.suffix_cons '?' left)).trans hblank, hgrows⟩
  case h_4 =>
    obtain ⟨rfl, rfl⟩ := Prod.mk.inj (Option.some.inj h)
    exact ⟨hblank, scan.grows_enter _⟩

theorem repeated?_spec (h : scan.repeated? cs = some (scan', rest)) : rest <:+ cs ∧ scan.Grows scan' := by
  obtain ⟨group, hgroup, heq⟩ := Option.map_eq_some_iff.mp h
  obtain ⟨rfl, rfl⟩ := Prod.mk.inj heq
  refine ⟨?_, grows_of_group (Group.depth_le_repeatLast? hgroup)⟩
  split_ifs
  · exact List.drop_suffix 1 cs
  · exact List.suffix_rfl

theorem next?_spec (h : scan.next? c cs = some (scan', rest)) : rest <:+ cs ∧ scan.Grows scan' := by
  have hadd (depth : Nat) : scan.Grows (scan.add depth) := grows_of_group (scan.group.depth_le_add depth)
  unfold next? at h
  split at h
  case h_1 => exact enter?_spec h
  case h_2 =>
    obtain ⟨left, hleft, heq⟩ := Option.map_eq_some_iff.mp h
    obtain ⟨rfl, rfl⟩ := Prod.mk.inj heq
    exact ⟨List.suffix_rfl, grows_leave? hleft⟩
  case h_3 =>
    obtain ⟨rfl, rfl⟩ := Prod.mk.inj (Option.some.inj h)
    exact ⟨List.suffix_rfl, grows_of_group scan.group.depth_le_branch⟩
  case h_4 =>
    obtain ⟨⟨depth, left⟩, hset, heq⟩ := Option.map_eq_some_iff.mp h
    obtain ⟨rfl, rfl⟩ := Prod.mk.inj heq
    exact ⟨charSet?_suffix hset, hadd depth⟩
  case h_5 => exact repeated?_spec h
  case h_6 => exact repeated?_spec h
  case h_7 => exact repeated?_spec h
  case h_8 => cases h
  case h_9 =>
    split_ifs at h
    obtain ⟨rfl, rfl⟩ := Prod.mk.inj (Option.some.inj h)
    exact ⟨List.suffix_rfl, hadd 0⟩
  case h_10 =>
    obtain ⟨⟨atom, left⟩, hescape, heq⟩ := Option.bind_eq_some_iff.mp h
    dsimp only at heq
    split_ifs at heq
    obtain ⟨rfl, rfl⟩ := Prod.mk.inj (Option.some.inj heq)
    exact ⟨(escape?_isBehind hescape).suffix, hadd 0⟩
  case h_11 =>
    obtain ⟨rfl, rfl⟩ := Prod.mk.inj (Option.some.inj h)
    exact ⟨List.suffix_rfl, hadd 0⟩

/-! ## Runs -/

/-- One part of a pattern is read: the scan behind it, and the text that it leaves. -/
def Moves (now next : Scan × List Char) : Prop :=
  ∃ c rest, now.1.group.mode.skipBlank now.2 = c :: rest ∧ now.1.next? c rest = some next

theorem Moves.isBehind {now next : Scan × List Char} (h : Moves now next) : IsBehind next.2 now.2 := by
  obtain ⟨c, rest, hrest, hnext⟩ := h
  exact (isBehind_of_skipBlank hrest).suffix_trans (next?_spec hnext).1

theorem Moves.grows {now next : Scan × List Char} (h : Moves now next) : now.1.Grows next.1 := by
  obtain ⟨c, rest, -, hnext⟩ := h
  exact (next?_spec hnext).2

theorem Moves.eq {now next next' : Scan × List Char} (h : Moves now next) (h' : Moves now next') : next = next' := by
  obtain ⟨c, rest, hrest, hnext⟩ := h
  obtain ⟨c', rest', hrest', hnext'⟩ := h'
  obtain ⟨rfl, rfl⟩ := List.cons.inj (hrest.symm.trans hrest')
  exact Option.some.inj (hnext.symm.trans hnext')

/-- Some parts of a pattern are read, one behind another. -/
def Reaches : Scan × List Char → Scan × List Char → Prop := Relation.ReflTransGen Moves

theorem Reaches.suffix {now next : Scan × List Char} (h : Reaches now next) : next.2 <:+ now.2 := by
  induction h with
  | refl => exact List.suffix_rfl
  | tail _ hmoves ih => exact hmoves.isBehind.suffix.trans ih

theorem Reaches.grows {now next : Scan × List Char} (h : Reaches now next) : now.1.Grows next.1 := by
  induction h with
  | refl => exact ⟨id, Nat.le_refl _⟩
  | tail _ hmoves ih =>
    have hgrows := hmoves.grows
    exact ⟨fun hnodup => hgrows.nodup (ih.nodup hnodup), ih.depth_le.trans hgrows.depth_le⟩

/-- The scan has read the whole text: only blanks are left of it. -/
def Ends (now : Scan × List Char) : Prop := now.1.group.mode.skipBlank now.2 = []

theorem Ends.not_moves {now next : Scan × List Char} (h : Ends now) : ¬ Moves now next := by
  rintro ⟨c, rest, hrest, -⟩
  exact absurd (h.symm.trans hrest) (List.cons_ne_nil c rest).symm

/-- With one step for each character, the scan behind a pattern is the one at which its parts end. -/
theorem finish?_eq_some_iff {steps : Nat} (hsteps : cs.length < steps) :
    finish? steps scan cs = some scan' ↔ ∃ rest, Reaches (scan, cs) (scan', rest) ∧ Ends (scan', rest) := by
  induction steps generalizing scan cs with
  | zero => exact absurd hsteps (Nat.not_lt_zero _)
  | succ steps ih =>
    rw [finish?]
    cases hcs : scan.group.mode.skipBlank cs with
    | nil =>
      constructor
      · intro h
        obtain rfl := Option.some.inj h
        exact ⟨cs, .refl, hcs⟩
      · rintro ⟨rest, hreaches, -⟩
        rcases hreaches.cases_head with heq | ⟨next, hmoves, -⟩
        · exact congrArg some (Prod.mk.inj heq).1
        · exact absurd hmoves (Ends.not_moves hcs)
    | cons c left =>
      constructor
      · intro h
        obtain ⟨⟨next, more⟩, hnext, hfinish⟩ := Option.bind_eq_some_iff.mp h
        have hmoves : Moves (scan, cs) (next, more) := ⟨c, left, hcs, hnext⟩
        have hlt := hmoves.isBehind.length_lt
        obtain ⟨rest, hreaches, hends⟩ := (ih (by dsimp only at hlt; omega)).mp hfinish
        exact ⟨rest, hreaches.head hmoves, hends⟩
      · rintro ⟨rest, hreaches, hends⟩
        rcases hreaches.cases_head with heq | ⟨⟨next, more⟩, hmoves, htail⟩
        · obtain ⟨rfl, rfl⟩ := Prod.mk.inj heq
          exact absurd (hends.symm.trans hcs) (List.cons_ne_nil c left).symm
        · have hlt := hmoves.isBehind.length_lt
          obtain ⟨c', left', hcs', hnext⟩ := hmoves
          obtain ⟨rfl, rfl⟩ := List.cons.inj (hcs.symm.trans hcs')
          have hfinish := (ih (by dsimp only at hlt; omega)).mpr ⟨rest, htail, hends⟩
          exact Option.bind_eq_some_iff.mpr ⟨_, hnext, hfinish⟩

/-- The characters that are more than themselves outside brackets. -/
def marks : List Char := ['(', ')', '|', '[', '*', '+', '?', '{', '.', '\\']

theorem next?_of_notMem_marks (scan : Scan) (cs : List Char) (h : c ∉ marks) :
    scan.next? c cs = some (scan.add 0, cs) := by
  simp only [marks, List.mem_cons, List.not_mem_nil, or_false, not_or] at h
  unfold next?
  split <;> simp_all

theorem reaches_of_notMem_marks (scan : Scan) (hmode : scan.group.mode.spaced = false) (h : ∀ c ∈ cs, c ∉ marks) :
    let parts := List.replicate cs.length (some 0) ++ scan.group.parts
    Reaches (scan, cs) ({ scan with group := { scan.group with parts } }, []) := by
  induction cs generalizing scan with
  | nil => exact .refl
  | cons c cs ih =>
    have hmoves : Moves (scan, c :: cs) (scan.add 0, cs) :=
      ⟨c, cs, by simp [Mode.skipBlank, hmode], next?_of_notMem_marks scan cs (h c List.mem_cons_self)⟩
    have htail := ih (scan.add 0) hmode fun d hd => h d (List.mem_cons_of_mem c hd)
    rw [List.length_cons, List.replicate_succ', List.append_assoc]
    exact htail.head hmoves

end Scan

/-! ## Patterns -/

/-- A text is a pattern if its parts can be read to the end, with every group closed and none nested too deep. -/
theorem isWellFormed_iff :
    isWellFormed cs = true ↔ ∃ scan rest, Scan.Reaches ({}, cs) (scan, rest) ∧ Scan.Ends (scan, rest) ∧
      scan.around = [] ∧ scan.group.depth ≤ maxDepth := by
  simp only [isWellFormed, Option.any_eq_true, Bool.and_eq_true, List.isEmpty_iff, decide_eq_true_eq,
    Scan.finish?_eq_some_iff (Nat.lt_succ_self cs.length)]
  constructor
  · rintro ⟨scan, ⟨rest, hreaches, hends⟩, haround, hdepth⟩
    exact ⟨scan, rest, hreaches, hends, haround, hdepth⟩
  · rintro ⟨scan, rest, hreaches, hends, haround, hdepth⟩
    exact ⟨scan, ⟨rest, hreaches, hends⟩, haround, hdepth⟩

/-- No two groups have one name. -/
theorem nodup_names {scan : Scan} (h : Scan.Reaches ({}, cs) (scan, rest)) : scan.names.Nodup :=
  h.grows.nodup List.nodup_nil

/-- Nowhere in a pattern are more groups open than may be nested. -/
theorem length_around_le {scan : Scan} (hpattern : isWellFormed cs = true) (h : Scan.Reaches ({}, cs) (scan, rest)) :
    scan.around.length ≤ maxDepth := by
  obtain ⟨final, left, hfinal, hends, haround, hdepth⟩ := isWellFormed_iff.mp hpattern
  -- There is only one way to read on, so the scan lies on the way to the end.
  have hunique : Relator.RightUnique Scan.Moves := fun _ _ _ => Scan.Moves.eq
  have hreaches : Scan.Reaches (scan, rest) (final, left) := by
    rcases Relation.ReflTransGen.total_of_right_unique hunique h hfinal with hlater | hearlier
    · exact hlater
    · rcases hearlier.cases_head with heq | ⟨next, hmoves, -⟩
      · exact heq ▸ .refl
      · exact absurd hmoves hends.not_moves
  -- Each open group is one level of the depth that the pattern has at least.
  have hopen := Scan.length_add_depth_le scan.group scan.around
  have hgrows := hreaches.grows.depth_le
  simp only [haround, Scan.depthClosed] at hgrows
  omega

theorem listDepth_replicate_zero_le (n : Nat) : listDepth (List.replicate n 0) ≤ 1 := by
  have hdeepest : deepest (List.replicate n 0) = 0 := by
    induction n with
    | zero => rfl
    | succ n ih => rw [List.replicate_succ, deepest_cons, ih, Nat.max_zero]
  rw [listDepth, hdeepest]
  split_ifs <;> omega

/-- A text in which each character stands for itself is a pattern. -/
theorem isWellFormed_of_notMem_marks (h : ∀ c ∈ cs, c ∉ Scan.marks) : isWellFormed cs = true := by
  refine isWellFormed_iff.mpr ⟨_, [], Scan.reaches_of_notMem_marks {} rfl h, rfl, rfl, ?_⟩
  simp only [Group.depth, Group.branchDepth, List.append_nil, List.map_replicate, Option.getD_some, listDepth_singleton]
  exact (listDepth_replicate_zero_le cs.length).trans (by decide)

end Compaction.Pattern
