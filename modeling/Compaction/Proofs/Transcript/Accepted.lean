import Compaction.Proofs.Json.Grammar
import Compaction.Proofs.Json.Record
import Compaction.Proofs.Transcript.RoundTrip

/-!
# Which transcripts are read

A text may be laid out in any way and escape any character, an object may have its members in any order, and further
members may hold whatever is well written.

* `Entry.IsObject` : an object that stands for an entry;
* `Entry.Gives` : the entry that it stands for, with `Entry.isObject_iff` and `Entry.Gives.congr`;
* `EntryFields.roleField`, `EntryFields.contentField`, `EntryFields.isDemoField` : the parts of an entry, of which the
  last is given under two names;
* `Entry.Gives.readMembers_ne_error` : the members of such an object are taken in whatever order they come;
* `Entry.read_ofNamed_eq_ok_iff` : an object with distinct names is read as the entry that it gives;
* `transcript_is_read_iff` : a list of objects is read if and only if every one of them stands for an entry.
-/

namespace Compaction

open Json (Fault IsDocument IsNumberText IsStringText IsText Node Reader Source isBlank_nil isBlank_space
  isStringText_stringChars isText_member)

/-! ## What objects stand for -/

/-- The two ways to write a role: by its label, or as an object with the label as its only name and null behind it. -/
def Role.IsWrittenAs (role : Role) (node : Node) : Prop :=
  node = .string (some role.label) ∨ node = .object [(some role.label, .null)]

theorem Role.read_eq_ok_iff {role : Role} {node : Node} : Role.read .text node = .ok role ↔ role.IsWrittenAs node :=
  Json.readVariant_text_eq_ok_iff (by rintro (_ | _ | _) <;> decide) fun _ _ h => Role.label_inj h

namespace Entry

/-- The names under which the mark for demonstrations may be given. -/
def demoNames : List String := ["is_demo", "demo"]

def names : List String := "role" :: "content" :: demoNames

structure IsObject (members : List (String × Node)) : Prop where
  role : ∃ (role : Role) (node : Node), ("role", node) ∈ members ∧ role.IsWrittenAs node
  content : ∃ content, ("content", .string (some content)) ∈ members
  oneMark : ¬ ("is_demo" ∈ members.map Prod.fst ∧ "demo" ∈ members.map Prod.fst)
  isDemo : ∀ name ∈ demoNames, ∀ node, (name, node) ∈ members → ∃ b, node = .bool b

/-- The entry that an object stands for. Without a mark it is not part of a demonstration. -/
structure Gives (members : List (String × Node)) (e : Entry) : Prop where
  role : ∃ node, ("role", node) ∈ members ∧ e.role.IsWrittenAs node
  content : ("content", .string (some e.content)) ∈ members
  oneMark : ¬ ("is_demo" ∈ members.map Prod.fst ∧ "demo" ∈ members.map Prod.fst)
  isDemo : (∃ name ∈ demoNames, (name, .bool e.isDemo) ∈ members) ∨
    e.isDemo = false ∧ ∀ name ∈ demoNames, name ∉ members.map Prod.fst

variable {members members' : List (String × Node)} {e : Entry}

theorem mem_names_iff {name : String} : name ∈ members.map Prod.fst ↔ ∃ node, (name, node) ∈ members := by
  rw [List.mem_map, Prod.exists]
  constructor
  · rintro ⟨name', node, hm, rfl⟩
    exact ⟨node, hm⟩
  · exact fun ⟨node, hm⟩ => ⟨name, node, hm, rfl⟩

/-- Two marks would need both names. -/
theorem eq_of_oneMark {name name' : String}
    (h : ¬ ("is_demo" ∈ members.map Prod.fst ∧ "demo" ∈ members.map Prod.fst)) (hname : name ∈ demoNames)
    (hname' : name' ∈ demoNames) (hm : name ∈ members.map Prod.fst) (hm' : name' ∈ members.map Prod.fst) :
    name = name' := by
  simp only [demoNames, List.mem_cons, List.not_mem_nil, or_false] at hname hname'
  rcases hname with rfl | rfl <;> rcases hname' with rfl | rfl
  · rfl
  · exact absurd ⟨hm, hm'⟩ h
  · exact absurd ⟨hm', hm⟩ h
  · rfl

theorem Gives.isDemo_of_mem (h : Gives members e) (hdistinct : (members.map Prod.fst).Nodup) {name : String}
    {node : Node} (hname : name ∈ demoNames) (hm : (name, node) ∈ members) : node = .bool e.isDemo := by
  rcases h.isDemo with ⟨name', hname', hm'⟩ | ⟨-, hnone⟩
  · obtain rfl := eq_of_oneMark h.oneMark hname hname' (List.mem_map_of_mem hm) (List.mem_map_of_mem hm')
    exact Json.value_eq_of_nodup hdistinct hm hm'
  · exact absurd (List.mem_map_of_mem hm) (hnone name hname)

/-- An object stands for an entry if and only if there is an entry for which it stands. -/
theorem isObject_iff (hdistinct : (members.map Prod.fst).Nodup) : IsObject members ↔ ∃ e, Gives members e := by
  constructor
  · rintro ⟨⟨role, node, hrole, hwritten⟩, ⟨content, hcontent⟩, oneMark, hdemo⟩
    by_cases hmark : ∃ name ∈ demoNames, name ∈ members.map Prod.fst
    · obtain ⟨name, hname, hin⟩ := hmark
      obtain ⟨node', hm⟩ := mem_names_iff.mp hin
      obtain ⟨b, rfl⟩ := hdemo name hname node' hm
      exact ⟨⟨role, content, b⟩, ⟨node, hrole, hwritten⟩, hcontent, oneMark, Or.inl ⟨name, hname, hm⟩⟩
    · exact ⟨⟨role, content, false⟩, ⟨node, hrole, hwritten⟩, hcontent, oneMark,
        Or.inr ⟨rfl, fun name hname hin => hmark ⟨name, hname, hin⟩⟩⟩
  · rintro ⟨e, h⟩
    obtain ⟨node, hrole, hwritten⟩ := h.role
    exact ⟨⟨e.role, node, hrole, hwritten⟩, ⟨e.content, h.content⟩, h.oneMark,
      fun name hname node hm => ⟨e.isDemo, h.isDemo_of_mem hdistinct hname hm⟩⟩

/-- Objects agree if they have the same members under the names that a record knows. -/
def Agree (members members' : List (String × Node)) : Prop :=
  ∀ name ∈ names, ∀ node, (name, node) ∈ members ↔ (name, node) ∈ members'

theorem Agree.symm (h : Agree members members') : Agree members' members :=
  fun name hname node => (h name hname node).symm

theorem Agree.mem_names_iff (h : Agree members members') {name : String} (hname : name ∈ names) :
    name ∈ members.map Prod.fst ↔ name ∈ members'.map Prod.fst := by
  rw [Entry.mem_names_iff, Entry.mem_names_iff]
  exact exists_congr (h name hname)

/-- Neither the order of the members nor further members change the entry. -/
theorem Gives.congr (hagree : Agree members members') (h : Gives members e) : Gives members' e where
  role := by
    obtain ⟨node, hm, hwritten⟩ := h.role
    exact ⟨node, (hagree _ (by decide) node).mp hm, hwritten⟩
  content := (hagree _ (by decide) _).mp h.content
  oneMark := by
    rw [← hagree.mem_names_iff (by decide), ← hagree.mem_names_iff (by decide)]
    exact h.oneMark
  isDemo := by
    have hknown : ∀ name ∈ demoNames, name ∈ names := fun name hname => by simp [names, hname]
    rcases h.isDemo with ⟨name, hname, hm⟩ | ⟨hfalse, hnone⟩
    · exact Or.inl ⟨name, hname, (hagree name (hknown name hname) _).mp hm⟩
    · exact Or.inr ⟨hfalse, fun name hname hm => hnone name hname ((hagree.mem_names_iff (hknown name hname)).mpr hm)⟩

end Entry

/-! ## Fields -/

namespace EntryFields

open Entry (demoNames names)

variable {source : Source} {fields fields' : EntryFields} {name : String} {r : Reader EntryFields} {node : Node}

theorem mem_names_of_step (hstep : step? source fields name = some r) : name ∈ names := by
  unfold step? at hstep
  split_ifs at hstep <;> simp_all [names, demoNames]

/-- A member only changes the field under its name. -/
theorem eq_of_step (hstep : step? source fields name = some r) (hread : r node = .ok fields') :
    (name ≠ "role" → fields'.role = fields.role) ∧ (name ≠ "content" → fields'.content = fields.content) ∧
    (name ∉ demoNames → fields'.isDemo = fields.isDemo) := by
  unfold step? at hstep
  split_ifs at hstep with h₁ h₂ h₃
  all_goals
    obtain rfl := Option.some.inj hstep
    obtain ⟨-, a, -, rfl⟩ := Json.readField_eq_ok_iff.mp hread
  · exact ⟨absurd h₁, fun _ => rfl, fun _ => rfl⟩
  · exact ⟨fun _ => rfl, absurd h₂, fun _ => rfl⟩
  · exact ⟨fun _ => rfl, fun _ => rfl, absurd (by simpa [demoNames] using h₃)⟩

def roleField (source : Source) : Json.Field (step? source) Role :=
  .ofName "role" EntryFields.role (Role.read source) (fun fields role => { fields with role := some role })
    (fun _ => rfl) (fun _ _ => rfl) fun hname hstep hread => (eq_of_step hstep hread).1 hname

def contentField (source : Source) : Json.Field (step? source) String :=
  .ofName "content" EntryFields.content Json.readString
    (fun fields content => { fields with content := some content })
    (fun _ => rfl) (fun _ _ => rfl) fun hname hstep hread => (eq_of_step hstep hread).2.1 hname

def isDemoField (source : Source) : Json.Field (step? source) Bool where
  names := demoNames
  get := EntryFields.isDemo
  reader := Json.readBool
  exists_step fields name hname := by
    refine ⟨"is_demo", fun isDemo => { fields with isDemo := some isDemo }, ?_, fun _ => rfl⟩
    simp only [demoNames, List.mem_cons, List.not_mem_nil, or_false] at hname
    rcases hname with rfl | rfl <;> rfl
  get_eq hname hstep hread := (eq_of_step hstep hread).2.2 hname

theorem toEntry_eq_ok_iff {e : Entry} :
    fields.toEntry = .ok e ↔
      fields.role = some e.role ∧ fields.content = some e.content ∧ fields.isDemo.getD false = e.isDemo := by
  obtain ⟨role, content, isDemo⟩ := fields
  obtain ⟨role', content', isDemo'⟩ := e
  cases role <;> cases content <;> simp [toEntry]

end EntryFields

/-! ## Entries -/

namespace Entry

open EntryFields (contentField isDemoField roleField)

variable {members : List (String × Node)} {fields : EntryFields} {e : Entry}

theorem gives_of_readMembers
    (h : Json.readMembers (EntryFields.step? .text) {} (Node.named members) = .ok fields)
    (he : fields.toEntry = .ok e) : Gives members e := by
  obtain ⟨hrole, hcontent, hdemo⟩ := EntryFields.toEntry_eq_ok_iff.mp he
  constructor
  · obtain ⟨name, hname, node, hm, hread⟩ := ((roleField .text).get_eq_some_iff rfl h).mp hrole
    obtain rfl := List.mem_singleton.mp hname
    exact ⟨node, Node.mem_named.mp hm, Role.read_eq_ok_iff.mp hread⟩
  · obtain ⟨name, hname, node, hm, hread⟩ := ((contentField .text).get_eq_some_iff rfl h).mp hcontent
    obtain rfl := List.mem_singleton.mp hname
    obtain rfl := Json.node_eq_of_readString hread
    exact Node.mem_named.mp hm
  · rw [mem_names_iff, mem_names_iff]
    rintro ⟨⟨node, hm⟩, ⟨node', hm'⟩⟩
    have heq := (isDemoField .text).eq_of_mem h ⟨"is_demo", by decide, rfl⟩ ⟨"demo", by decide, rfl⟩
      (Node.mem_named.mpr hm) (Node.mem_named.mpr hm')
    exact absurd (Option.some.inj (congrArg Prod.fst heq)) (by decide)
  · cases hget : fields.isDemo with
    | some b =>
      obtain ⟨name, hname, node, hm, hread⟩ := ((isDemoField .text).get_eq_some_iff rfl h).mp hget
      obtain rfl := Json.node_eq_of_readBool hread
      rw [hget] at hdemo
      obtain rfl : b = e.isDemo := hdemo
      exact Or.inl ⟨name, hname, Node.mem_named.mp hm⟩
    | none =>
      rw [hget] at hdemo
      refine Or.inr ⟨hdemo.symm, fun name hname hin => ?_⟩
      obtain ⟨node, hm⟩ := mem_names_iff.mp hin
      obtain ⟨b, -, hsome⟩ := (isDemoField .text).exists_of_mem h hname (Node.mem_named.mpr hm)
      rw [show fields.isDemo = some b from hsome] at hget
      cases hget

theorem Gives.readMembers_ne_error (h : Gives members e) (hdistinct : (members.map Prod.fst).Nodup)
    (hwhole : ∀ m ∈ members, m.2.isWhole = true) (fault : Fault) :
    Json.readMembers (EntryFields.step? .text) {} (Node.named members) ≠ .error fault := by
  intro hread
  obtain ⟨before, m, after, mid, hsplit, hbefore, hrefuses⟩ := Json.exists_of_readMembers_error hread
  obtain ⟨earlier, rest, rfl, rfl, hrest⟩ := List.map_eq_append_iff.mp hsplit
  obtain ⟨⟨name, node⟩, later, rfl, rfl, -⟩ := List.map_eq_cons_iff.mp hrest
  have hm : (name, node) ∈ earlier ++ (name, node) :: later := by simp
  obtain ⟨hnew, -, -⟩ := Json.nodup_names_split hdistinct
  rcases hrefuses with hname | hnode | ⟨name', r, hname, hstep, hfault⟩
  · cases hname
  · rw [hwhole _ hm] at hnode
    cases hnode
  · obtain rfl := Option.some.inj hname
    -- Each field is given for the first time, and its value can be read.
    have hfirst : ∀ node', (some name, node') ∉ Node.named earlier := by
      intro node' hin
      exact hnew (List.mem_map_of_mem (Node.mem_named.mp hin))
    have hsingle : ∀ name' ∈ [name], ∀ node', (some name', node') ∉ Node.named earlier :=
      List.forall_mem_singleton.mpr hfirst
    rcases List.mem_cons.mp (EntryFields.mem_names_of_step hstep) with rfl | hname
    · obtain ⟨node', hm', hwritten⟩ := h.role
      obtain rfl := Json.value_eq_of_nodup hdistinct hm hm'
      exact (roleField .text).ne_error_of_first rfl hbefore hsingle (List.mem_singleton_self _) hstep
        (Role.read_eq_ok_iff.mpr hwritten) fault hfault
    rcases List.mem_cons.mp hname with rfl | hname
    · obtain rfl := Json.value_eq_of_nodup hdistinct hm h.content
      exact (contentField .text).ne_error_of_first rfl hbefore hsingle (List.mem_singleton_self _) hstep rfl
        fault hfault
    · obtain rfl := h.isDemo_of_mem hdistinct hname hm
      refine (isDemoField .text).ne_error_of_first rfl hbefore ?_ hname hstep rfl fault hfault
      intro name' hname' node' hin
      have hm' : (name', node') ∈ earlier ++ (name, .bool e.isDemo) :: later :=
        List.mem_append_left _ (Node.mem_named.mp hin)
      obtain rfl := eq_of_oneMark h.oneMark hname hname' (List.mem_map_of_mem hm) (List.mem_map_of_mem hm')
      exact hfirst node' hin

/-- An object with distinct names is read as the entry that it gives. -/
theorem read_ofNamed_eq_ok_iff (hdistinct : (members.map Prod.fst).Nodup)
    (hwhole : ∀ m ∈ members, m.2.isWhole = true) : read .text (.ofNamed members) = .ok e ↔ Gives members e := by
  show (Json.readMembers (EntryFields.step? .text) {} (Node.named members)).bind
    EntryFields.toEntry = .ok e ↔ _
  cases hread : Json.readMembers (EntryFields.step? .text) {} (Node.named members) with
  | error fault => exact iff_of_false nofun fun h => h.readMembers_ne_error hdistinct hwhole fault hread
  | ok fields =>
    refine ⟨gives_of_readMembers hread, fun h => EntryFields.toEntry_eq_ok_iff.mpr ⟨?_, ?_, ?_⟩⟩
    · obtain ⟨node, hm, hwritten⟩ := h.role
      exact ((roleField .text).get_eq_some_iff rfl hread).mpr
        ⟨"role", List.mem_singleton_self _, node, Node.mem_named.mpr hm, Role.read_eq_ok_iff.mpr hwritten⟩
    · exact ((contentField .text).get_eq_some_iff rfl hread).mpr
        ⟨"content", List.mem_singleton_self _, _, Node.mem_named.mpr h.content, rfl⟩
    · rcases h.isDemo with ⟨name, hname, hm⟩ | ⟨hfalse, hnone⟩
      · have hget := ((isDemoField .text).get_eq_some_iff rfl hread).mpr ⟨name, hname, _, Node.mem_named.mpr hm, rfl⟩
        exact congrArg (Option.getD · false) hget
      · have hget := (isDemoField .text).get_eq_of_not_mem hread fun name hname node hm =>
          hnone name hname (List.mem_map_of_mem (Node.mem_named.mp hm))
        rw [hfalse]
        exact congrArg (Option.getD · false) hget

end Entry

/-! ## Transcripts -/

section

variable {objects objects' : List (List (String × Node))} {text text' : String}

theorem History.ofText_eq_ok_iff (htext : IsDocument (.array (objects.map .ofNamed)) text)
    (hdistinct : ∀ members ∈ objects, (members.map Prod.fst).Nodup) {h : History} :
    ofText text = .ok h ↔ List.Forall₂ Entry.Gives objects h := by
  have hwhole : ∀ members ∈ objects, ∀ m ∈ members, m.2.isWhole = true := by
    have hroot := htext.isWhole
    rw [Node.isWhole, Node.areWhole_iff, List.forall_mem_map] at hroot
    exact fun members hmembers => Node.isWhole_ofNamed.mp (hroot members hmembers)
  have hread : ofText text = .ok h ↔ read .text (.array (objects.map .ofNamed)) = .ok h := by
    rw [ofText, htext.ofText_eq, Json.Document.read]
    cases read .text (.array (objects.map .ofNamed)) <;> exact Iff.rfl
  rw [hread, read, Json.readItems_eq_ok_iff, List.forall₂_map_left_iff]
  exact Json.forall₂_congr_of_mem fun members hmembers e =>
    Entry.read_ofNamed_eq_ok_iff (hdistinct members hmembers) (hwhole members hmembers)

theorem Entry.forall₂_gives_of_agree (hagree : List.Forall₂ Agree objects objects') {h : History}
    (hgives : List.Forall₂ Gives objects h) : List.Forall₂ Gives objects' h := by
  induction hagree generalizing h with
  | nil => exact hgives
  | cons hmembers _ ih =>
    cases hgives with
    | cons hfirst hrest => exact .cons (hfirst.congr hmembers) (ih hrest)

/-- **A list of objects is read if and only if every one of them stands for an entry.** It then is read as these
entries, object by object, and so is every other text whose objects agree with its own under the names that a record
knows. -/
theorem transcript_is_read_iff (htext : IsDocument (.array (objects.map .ofNamed)) text)
    (hdistinct : ∀ members ∈ objects, (members.map Prod.fst).Nodup) :
    ((∃ h, History.ofText text = .ok h) ↔ ∀ members ∈ objects, Entry.IsObject members) ∧
    (∀ h, History.ofText text = .ok h ↔ List.Forall₂ Entry.Gives objects h) ∧
    ∀ (objects' : List (List (String × Node))) (text' : String),
      IsDocument (.array (objects'.map .ofNamed)) text' → (∀ members ∈ objects', (members.map Prod.fst).Nodup) →
      List.Forall₂ Entry.Agree objects objects' →
      ∀ h, History.ofText text' = .ok h ↔ History.ofText text = .ok h := by
  have hread : ∀ h, History.ofText text = .ok h ↔ List.Forall₂ Entry.Gives objects h :=
    fun h => History.ofText_eq_ok_iff htext hdistinct
  refine ⟨?_, hread, ?_⟩
  · simp only [hread]
    rw [Json.exists_forall₂_iff]
    exact forall₂_congr fun members hmembers => (Entry.isObject_iff (hdistinct members hmembers)).symm
  · intro objects' text' htext' hdistinct' hagree h
    rw [hread, History.ofText_eq_ok_iff htext' hdistinct']
    exact ⟨Entry.forall₂_gives_of_agree (hagree.flip.imp fun _ _ => Entry.Agree.symm),
      Entry.forall₂_gives_of_agree hagree⟩

end

/-- A transcript with a single object, whose members are in no particular order and of which one holds a number beyond
all floats and a name without a partner for its surrogate. -/
def oddTranscript : String :=
  "[\x7b\"x\":[1e9999999999, \x7b\"\\ud800\":[]\x7d],\"demo\": true," ++
    "\"role\":\x7b\"user\":null\x7d,\"content\":\"\"\x7d]"

def oddMembers : List (String × Node) :=
  [("x", .array [.number none, .object [(none, .array [])]]), ("demo", .bool true),
    ("role", .object [(some "user", .null)]), ("content", .string (some ""))]

theorem isDocument_oddTranscript : IsDocument (.array ([oddMembers].map .ofNamed)) oddTranscript := by
  have hexponent : Text.IsRun Char.isDigit (List.replicate 10 '9') :=
    ⟨List.cons_ne_nil _ _, fun c hc => List.eq_of_mem_replicate hc ▸ rfl⟩
  have hnumber : IsNumberText ⟨false, ['1'], [], some (false, List.replicate 10 '9')⟩
      ('1' :: 'e' :: List.replicate 10 '9') :=
    .mk (Text.isRun_singleton rfl) (fun _ => rfl) .none (.unsigned (.inl rfl) hexponent)
  have hlone : IsStringText none ['"', '\\', 'u', 'd', '8', '0', '0', '"'] :=
    ⟨[.unit 0xD800], [_], .cons (.digits rfl) .nil, rfl, rfl⟩
  have hfurther := IsText.array isBlank_nil (.number hnumber) (.nextItem isBlank_nil isBlank_space
    (.object isBlank_nil (.member hlone isBlank_nil isBlank_nil (.emptyArray isBlank_nil)) (.closeObject isBlank_nil))
    (.closeArray isBlank_nil))
  have hrole := IsText.object isBlank_nil (isText_member .compact "user" .null) (.closeObject isBlank_nil)
  have hcontent := isText_member .compact "content" (.string (isStringText_stringChars ""))
  have hobject := IsText.object isBlank_nil (isText_member .compact "x" hfurther)
    (.nextMember isBlank_nil isBlank_nil (isText_member .pretty "demo" .true)
      (.nextMember isBlank_nil isBlank_nil (isText_member .compact "role" hrole)
        (.nextMember isBlank_nil isBlank_nil hcontent (.closeObject isBlank_nil))))
  exact ⟨[], _, [], isBlank_nil, .array isBlank_nil hobject (.closeArray isBlank_nil), isBlank_nil, by decide⟩

theorem oddTranscript_is_read :
    IsDocument (.array ([oddMembers].map .ofNamed)) oddTranscript ∧
    (∀ members ∈ [oddMembers], (members.map Prod.fst).Nodup) ∧
    History.ofText oddTranscript = .ok [⟨.user, "", true⟩] := by
  have hdistinct : ∀ members ∈ [oddMembers], (members.map Prod.fst).Nodup :=
    List.forall_mem_singleton.mpr (by decide)
  refine ⟨isDocument_oddTranscript, hdistinct, ?_⟩
  refine ((transcript_is_read_iff isDocument_oddTranscript hdistinct).2.1 _).mpr (.cons ?_ .nil)
  exact ⟨⟨_, .tail _ (.tail _ (.head _)), Or.inr rfl⟩, .tail _ (.tail _ (.tail _ (.head _))), by decide,
    Or.inl ⟨"demo", by decide, .tail _ (.head _)⟩⟩

end Compaction
