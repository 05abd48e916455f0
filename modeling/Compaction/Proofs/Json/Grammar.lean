import Compaction.Json.Document
import Compaction.Proofs.Json.Lexeme

/-!
# The grammar of texts

* `IsText` : the texts that stand for a value, for what follows an item or a member, and for a member, with white space
  wherever it may stand;
* `Progress.advance` : how far a text has been taken behind another text;
* `Part.Steps`, `IsText.steps` : a part of the grammar is one step, wherever it may stand and whatever follows;
* `steps_array`, `steps_nextItem`, `steps_object`, `steps_nextMember`, `steps_member` : how the parts are put together;
* `IsText.isWhole` : the text does not break off inside a part of the grammar;
* `IsDocument.ofText_eq` : the document of a value between white space.
-/

namespace Compaction.Json

/-! ## Parts -/

inductive Part where
  | value (node : Node)
  /-- What stands behind an item of an array: the other items and the closing bracket. -/
  | moreItems (nodes : List Node)
  | member (m : Option String × Node)
  | moreMembers (members : List (Option String × Node))

inductive IsText : Part → List Char → Prop where
  | null : IsText (.value .null) ['n', 'u', 'l', 'l']
  | true : IsText (.value (.bool true)) ['t', 'r', 'u', 'e']
  | false : IsText (.value (.bool false)) ['f', 'a', 'l', 's', 'e']
  | number {t : NumberText} {text : List Char} (h : IsNumberText t text) :
    IsText (.value (.number (Number.ofText? t))) text
  | string {s : Option String} {text : List Char} (h : IsStringText s text) : IsText (.value (.string s)) text
  | emptyArray {blank : List Char} (hblank : IsBlank blank) : IsText (.value (.array [])) ('[' :: (blank ++ [']']))
  | array {node : Node} {nodes : List Node} {blank text more : List Char} (hblank : IsBlank blank)
      (hitem : IsText (.value node) text) (hmore : IsText (.moreItems nodes) more) :
      IsText (.value (.array (node :: nodes))) ('[' :: (blank ++ (text ++ more)))
  | closeArray {blank : List Char} (hblank : IsBlank blank) : IsText (.moreItems []) (blank ++ [']'])
  | nextItem {node : Node} {nodes : List Node} {before behind text more : List Char} (hbefore : IsBlank before)
      (hbehind : IsBlank behind) (hitem : IsText (.value node) text) (hmore : IsText (.moreItems nodes) more) :
      IsText (.moreItems (node :: nodes)) (before ++ ',' :: (behind ++ (text ++ more)))
  | member {name : Option String} {node : Node} {before behind nameText text : List Char}
      (hname : IsStringText name nameText) (hbefore : IsBlank before) (hbehind : IsBlank behind)
      (hvalue : IsText (.value node) text) :
      IsText (.member (name, node)) (nameText ++ (before ++ ':' :: (behind ++ text)))
  | emptyObject {blank : List Char} (hblank : IsBlank blank) :
    IsText (.value (.object [])) ('{' :: (blank ++ ['}']))
  | object {m : Option String × Node} {members : List (Option String × Node)} {blank text more : List Char}
      (hblank : IsBlank blank) (hmember : IsText (.member m) text) (hmore : IsText (.moreMembers members) more) :
      IsText (.value (.object (m :: members))) ('{' :: (blank ++ (text ++ more)))
  | closeObject {blank : List Char} (hblank : IsBlank blank) : IsText (.moreMembers []) (blank ++ ['}'])
  | nextMember {m : Option String × Node} {members : List (Option String × Node)}
      {before behind text more : List Char} (hbefore : IsBlank before) (hbehind : IsBlank behind)
      (hmember : IsText (.member m) text) (hmore : IsText (.moreMembers members) more) :
      IsText (.moreMembers (m :: members)) (before ++ ',' :: (behind ++ (text ++ more)))

/-! ## Taking a text -/

namespace Progress

/-- How far a text has been taken when the words of `cs` have been taken, too. -/
def advance (progress : Progress) (cs : List Char) : Progress := (lexemes cs).foldl step progress

theorem advance_word (progress : Progress) {cs rest : List Char} {word : Lexeme}
    (h : lexemes cs = word :: lexemes rest) : progress.advance cs = (progress.step word).advance rest := by
  unfold advance
  rw [h, List.foldl_cons]

theorem advance_blank (progress : Progress) {blank : List Char} (h : IsBlank blank) (rest : List Char) :
    progress.advance (blank ++ rest) = progress.advance rest := by
  unfold advance
  rw [lexemes_blank h]

/-- Where a value may stand, every word but a closing bracket is taken as the start of a value. -/
theorem advance_value {frames : List Frame} {position : Position} {word : Lexeme} {cs rest : List Char}
    (hpos : position = .value ∨ position = .firstItem) (hword : lexemes cs = word :: lexemes rest)
    (hclose : word ≠ .closeArray) :
    (inside frames position).advance cs = (stepValue frames word).advance rest := by
  rw [advance_word _ hword]
  rcases hpos with rfl | rfl
  · rfl
  · cases word <;> first | rfl | exact absurd rfl hclose

end Progress

open Progress

/-- A part of the grammar is one step, wherever it may stand and whatever follows. -/
def Part.Steps : Part → List Char → Prop
  | value node, text => ∀ (frames : List Frame) (position : Position) (rest : List Char),
    position = .value ∨ position = .firstItem → EndsNumber rest →
      (inside frames position).advance (text ++ rest) = (place node frames).advance rest
  | moreItems nodes, text => ∀ (items : List Node) (frames : List Frame) (rest : List Char),
    EndsNumber (text ++ rest) ∧ (inside (.array items :: frames) .next).advance (text ++ rest) =
      (place (.array (items.reverse ++ nodes)) frames).advance rest
  | member m, text => ∀ (members : List (Option String × Node)) (frames : List Frame) (position : Position)
      (rest : List Char), position = .name ∨ position = .firstName → EndsNumber rest →
    (inside (.object members :: frames) position).advance (text ++ rest) =
      (inside (.object (m :: members) :: frames) .next).advance rest
  | moreMembers ms, text => ∀ (members : List (Option String × Node)) (frames : List Frame) (rest : List Char),
    EndsNumber (text ++ rest) ∧ (inside (.object members :: frames) .next).advance (text ++ rest) =
      (place (.object (members.reverse ++ ms)) frames).advance rest

/-! ## Arrays -/

section

variable {node : Node} {nodes : List Node} {before behind blank text more : List Char}

theorem steps_emptyArray (hblank : IsBlank blank) : (Part.value (.array [])).Steps ('[' :: (blank ++ [']'])) := by
  intro frames position rest hpos _
  rw [List.cons_append, List.append_assoc, advance_value hpos (lexemes_cons rfl rfl) Lexeme.noConfusion,
    advance_blank _ hblank, List.singleton_append, advance_word _ (lexemes_cons rfl rfl)]
  rfl

theorem steps_array (hblank : IsBlank blank) (hitem : (Part.value node).Steps text)
    (hmore : (Part.moreItems nodes).Steps more) :
    (Part.value (.array (node :: nodes))).Steps ('[' :: (blank ++ (text ++ more))) := by
  intro frames position rest hpos _
  rw [List.cons_append, List.append_assoc, List.append_assoc,
    advance_value hpos (lexemes_cons rfl rfl) Lexeme.noConfusion, advance_blank _ hblank]
  -- The array could end here as well, which is why a value is one step at both positions.
  show (inside (.array [] :: frames) .firstItem).advance _ = _
  rw [hitem _ _ _ (Or.inr rfl) (hmore [] [] rest).1]
  show (inside (.array [_] :: frames) .next).advance _ = _
  rw [(hmore _ frames rest).2]
  rfl

theorem steps_closeArray (hblank : IsBlank blank) : (Part.moreItems []).Steps (blank ++ [']']) := by
  intro items frames rest
  rw [List.append_assoc, List.singleton_append, advance_blank _ hblank]
  refine ⟨endsNumber_blank hblank (endsNumber_cons rest rfl), ?_⟩
  rw [advance_word _ (lexemes_cons rfl rfl), List.append_nil]
  rfl

theorem steps_nextItem (hbefore : IsBlank before) (hbehind : IsBlank behind) (hitem : (Part.value node).Steps text)
    (hmore : (Part.moreItems nodes).Steps more) :
    (Part.moreItems (node :: nodes)).Steps (before ++ ',' :: (behind ++ (text ++ more))) := by
  intro items frames rest
  rw [List.append_assoc, List.cons_append, List.append_assoc, List.append_assoc, advance_blank _ hbefore]
  refine ⟨endsNumber_blank hbefore (endsNumber_cons _ rfl), ?_⟩
  rw [advance_word _ (lexemes_cons rfl rfl), advance_blank _ hbehind]
  show (inside (.array items :: frames) .value).advance _ = _
  rw [hitem _ _ _ (Or.inl rfl) (hmore [] [] rest).1]
  show (inside (.array (_ :: items) :: frames) .next).advance _ = _
  rw [(hmore _ frames rest).2, List.reverse_cons, List.append_assoc]
  rfl

end

/-! ## Objects -/

section

variable {name : Option String} {node : Node} {m : Option String × Node} {members : List (Option String × Node)}
  {before behind blank nameText text more : List Char}

theorem steps_member (hname : IsStringText name nameText) (hbefore : IsBlank before) (hbehind : IsBlank behind)
    (hvalue : (Part.value node).Steps text) :
    (Part.member (name, node)).Steps (nameText ++ (before ++ ':' :: (behind ++ text))) := by
  intro members frames position rest hpos hrest
  have hstep : step (inside (.object members :: frames) position) (.string name) =
      inside (.member members name :: frames) .colon := by
    rcases hpos with rfl | rfl <;> rfl
  rw [List.append_assoc, List.append_assoc, List.cons_append, List.append_assoc, advance_word _ (hname.lexemes _),
    hstep, advance_blank _ hbefore, advance_word _ (lexemes_cons rfl rfl), advance_blank _ hbehind]
  show (inside (.member members name :: frames) .value).advance _ = _
  rw [hvalue _ _ _ (Or.inl rfl) hrest]
  rfl

theorem steps_emptyObject (hblank : IsBlank blank) : (Part.value (.object [])).Steps ('{' :: (blank ++ ['}'])) := by
  intro frames position rest hpos _
  rw [List.cons_append, List.append_assoc, advance_value hpos (lexemes_cons rfl rfl) Lexeme.noConfusion,
    advance_blank _ hblank, List.singleton_append, advance_word _ (lexemes_cons rfl rfl)]
  rfl

theorem steps_object (hblank : IsBlank blank) (hmember : (Part.member m).Steps text)
    (hmore : (Part.moreMembers members).Steps more) :
    (Part.value (.object (m :: members))).Steps ('{' :: (blank ++ (text ++ more))) := by
  intro frames position rest hpos _
  rw [List.cons_append, List.append_assoc, List.append_assoc,
    advance_value hpos (lexemes_cons rfl rfl) Lexeme.noConfusion, advance_blank _ hblank]
  show (inside (.object [] :: frames) .firstName).advance _ = _
  rw [hmember _ _ _ _ (Or.inr rfl) (hmore [] [] rest).1, (hmore _ frames rest).2]
  rfl

theorem steps_closeObject (hblank : IsBlank blank) : (Part.moreMembers []).Steps (blank ++ ['}']) := by
  intro members frames rest
  rw [List.append_assoc, List.singleton_append, advance_blank _ hblank]
  refine ⟨endsNumber_blank hblank (endsNumber_cons rest rfl), ?_⟩
  rw [advance_word _ (lexemes_cons rfl rfl), List.append_nil]
  rfl

theorem steps_nextMember (hbefore : IsBlank before) (hbehind : IsBlank behind) (hmember : (Part.member m).Steps text)
    (hmore : (Part.moreMembers members).Steps more) :
    (Part.moreMembers (m :: members)).Steps (before ++ ',' :: (behind ++ (text ++ more))) := by
  intro earlier frames rest
  rw [List.append_assoc, List.cons_append, List.append_assoc, List.append_assoc, advance_blank _ hbefore]
  refine ⟨endsNumber_blank hbefore (endsNumber_cons _ rfl), ?_⟩
  rw [advance_word _ (lexemes_cons rfl rfl), advance_blank _ hbehind]
  show (inside (.object earlier :: frames) .name).advance _ = _
  rw [hmember _ _ _ _ (Or.inl rfl) (hmore [] [] rest).1, (hmore _ frames rest).2, List.reverse_cons,
    List.append_assoc]
  rfl

end

/-! ## All parts -/

/-- **Every part of the grammar is one step.** -/
theorem IsText.steps {part : Part} {text : List Char} (h : IsText part text) : part.Steps text := by
  induction h with
  | null => exact fun _ _ rest hpos _ => advance_value hpos (lexemes_null rest) Lexeme.noConfusion
  | true => exact fun _ _ rest hpos _ => advance_value hpos (lexemes_true rest) Lexeme.noConfusion
  | false => exact fun _ _ rest hpos _ => advance_value hpos (lexemes_false rest) Lexeme.noConfusion
  | number hnumber => exact fun _ _ _ hpos h => advance_value hpos (hnumber.lexemes h) Lexeme.noConfusion
  | string hstring => exact fun _ _ rest hpos _ => advance_value hpos (hstring.lexemes rest) Lexeme.noConfusion
  | emptyArray hblank => exact steps_emptyArray hblank
  | array hblank _ _ ihItem ihMore => exact steps_array hblank ihItem ihMore
  | closeArray hblank => exact steps_closeArray hblank
  | nextItem hbefore hbehind _ _ ihItem ihMore => exact steps_nextItem hbefore hbehind ihItem ihMore
  | member hname hbefore hbehind _ ihValue => exact steps_member hname hbefore hbehind ihValue
  | emptyObject hblank => exact steps_emptyObject hblank
  | object hblank _ _ ihMember ihMore => exact steps_object hblank ihMember ihMore
  | closeObject hblank => exact steps_closeObject hblank
  | nextMember hbefore hbehind _ _ ihMember ihMore => exact steps_nextMember hbefore hbehind ihMember ihMore

/-! ## Whole nodes -/

def Part.isWhole : Part → Bool
  | value node | member (_, node) => node.isWhole
  | moreItems nodes => Node.areWhole nodes
  | moreMembers members => Node.areWholeMembers members

theorem IsText.isWhole {part : Part} {text : List Char} (h : IsText part text) : part.isWhole = Bool.true := by
  induction h with
  | null | true | false | number _ | string _ | emptyArray _ | closeArray _ | emptyObject _ | closeObject _ => rfl
  | member _ _ _ _ ih => exact ih
  | array _ _ _ ihItem ihMore | nextItem _ _ _ _ ihItem ihMore => exact Bool.and_eq_true_iff.mpr ⟨ihItem, ihMore⟩
  | object _ _ _ ihMember ihMore | nextMember _ _ _ _ ihMember ihMore =>
    exact Bool.and_eq_true_iff.mpr ⟨ihMember, ihMore⟩

/-! ## Documents -/

/-- The document of a value between white space. -/
theorem IsText.ofLexemes_eq {root : Node} {before body behind : List Char} (hbody : IsText (.value root) body)
    (hbefore : IsBlank before) (hbehind : IsBlank behind) :
    Document.ofLexemes (lexemes (before ++ (body ++ behind))) = ⟨root, Bool.true⟩ := by
  have hends : EndsNumber behind := List.append_nil behind ▸ endsNumber_blank hbehind nofun
  have hsteps : (inside [] .value).advance (body ++ behind) = (place root []).advance behind :=
    hbody.steps [] .value behind (Or.inl rfl) hends
  show ((inside [] .value).advance (before ++ (body ++ behind))).toDocument = _
  rw [advance_blank _ hbefore, hsteps, advance, lexemes_of_isBlank hbehind]
  rfl

/-- The text of a value between white space. -/
def IsDocument (root : Node) (text : String) : Prop :=
  ∃ before body behind, IsBlank before ∧ IsText (.value root) body ∧ IsBlank behind ∧
    text.toList = before ++ (body ++ behind)

theorem IsDocument.ofText_eq {root : Node} {text : String} (h : IsDocument root text) :
    Document.ofText text = ⟨root, true⟩ := by
  obtain ⟨before, body, behind, hbefore, hbody, hbehind, htext⟩ := h
  rw [Document.ofText, htext, hbody.ofLexemes_eq hbefore hbehind]

theorem IsDocument.isWhole {root : Node} {text : String} (h : IsDocument root text) : root.isWhole = true := by
  obtain ⟨before, body, behind, -, hbody, -⟩ := h
  exact hbody.isWhole

end Compaction.Json
