import Compaction.Command.Options
import Compaction.Proofs.Json.NumberText

/-!
# Words for options

* `Options.words` : words that spell out options, one for each value and each flag;
* `Options.Takes` : what some words do to the options so far (`Takes.nil`, `Takes.append`);
* `Options.takes_give`, `Options.takes_raiseAs` : the words of a setting give its values, if it has none yet,
  and the word of a flag raises it;
* `Options.ofWords?_words` : so proper options are what their words ask for.
-/

namespace Compaction.Command

/-! ## Numbers -/

theorem count?_toString (n : UInt64) : Text.count? (toString n.toNat) = some n := by
  have hdigits : (toString n.toNat).toList = Nat.toDigits 10 n.toNat := String.toList_ofList
  have hvalue : (Nat.toDigits 10 n.toNat).foldl (fun acc c => acc * 10 + Text.digitValue c) 0 = n.toNat := by
    refine Eq.trans ?_ (Nat.ofDigitChars_ten_toDigits (n := n.toNat))
    simp only [Nat.ofDigitChars_eq_foldl, Nat.mul_comm 10]
    rfl
  have hread : Text.countOfDigits? (Nat.toDigits 10 n.toNat) = some n := by
    have hempty : (Nat.toDigits 10 n.toNat).isEmpty = false :=
      List.isEmpty_eq_false_iff.mpr Nat.toDigits_ne_nil
    have hall : (Nat.toDigits 10 n.toNat).all Char.isDigit = true :=
      List.all_eq_true.mpr (Json.all_isDigit_toDigits n.toNat)
    have hmax : n.toNat ≤ Text.maxCount := Nat.le_of_lt_succ n.toNat_lt
    rw [Text.countOfDigits?, hempty, hall]
    simp only [hvalue, hmax, if_true, UInt64.ofNat_toNat]
    rfl
  unfold Text.count?
  rw [hdigits]
  split
  · rename_i digits hplus
    -- A sign is no digit.
    have hsign := Json.all_isDigit_toDigits n.toNat '+' (hplus ▸ List.mem_cons_self)
    cases hsign
  · exact hread

/-! ## Names -/

def Setting.name : Setting → String
  | .input => "input"
  | .output => "output"
  | .config => "config"
  | .processor => "processor"
  | .n => "n"
  | .maxAge => "max-age"
  | .threshold => "long-output-char-thld"

def Setting.all : List Setting := [.input, .output, .config, .processor, .n, .maxAge, .threshold]

def Flag.name : Flag → String
  | .pretty => "pretty"
  | .noKeepLast => "no-keep-last"
  | .shortPlaceholder => "short-placeholder"
  | .stats => "stats"
  | .list => "list"
  | .verbose => "verbose"

def Flag.all : List Flag := [.pretty, .noKeepLast, .shortPlaceholder, .stats, .list, .verbose]

theorem Setting.ofName?_name (s : Setting) : ofName? s.name = some s := by
  cases s <;> decide

theorem Setting.ne_equals_of_mem_name (s : Setting) : ∀ c ∈ s.name.toList, (c != '=') = true := by
  apply List.all_eq_true.mp
  cases s <;> rfl

namespace Options

variable {o q q' q'' : Options}

/-! ## What options ask for -/

def values (o : Options) : Setting → List String
  | .input => o.input.toList
  | .output => o.output.toList
  | .config => o.config.toList
  | .processor => o.processors
  | .n => (o.n.map fun n => toString n.toNat).toList
  | .maxAge => (o.maxAge.map fun n => toString n.toNat).toList
  | .threshold => (o.threshold.map fun n => toString n.toNat).toList

def isRaised (o : Options) : Flag → Bool
  | .pretty => o.pretty
  | .noKeepLast => o.noKeepLast
  | .shortPlaceholder => o.shortPlaceholder
  | .stats => o.stats
  | .list => o.list
  | .verbose => o.verbose

/-- The options `q` with a setting as in `o`. -/
def give (o q : Options) : Setting → Options
  | .input => { q with input := o.input }
  | .output => { q with output := o.output }
  | .config => { q with config := o.config }
  | .processor => { q with processors := o.processors }
  | .n => { q with n := o.n }
  | .maxAge => { q with maxAge := o.maxAge }
  | .threshold => { q with threshold := o.threshold }

/-- The options `q` with a flag as in `o`. -/
def raiseAs (o q : Options) : Flag → Options
  | .pretty => { q with pretty := o.pretty }
  | .noKeepLast => { q with noKeepLast := o.noKeepLast }
  | .shortPlaceholder => { q with shortPlaceholder := o.shortPlaceholder }
  | .stats => { q with stats := o.stats }
  | .list => { q with list := o.list }
  | .verbose => { q with verbose := o.verbose }

theorem values_give_of_ne {s t : Setting} (hne : t ≠ s) (o q : Options) :
    (o.give q s).values t = q.values t := by
  cases s <;> cases t <;> first | rfl | exact absurd rfl hne

theorem isRaised_raiseAs_of_ne {f g : Flag} (hne : g ≠ f) (o q : Options) :
    (o.raiseAs q f).isRaised g = q.isRaised g := by
  cases f <;> cases g <;> first | rfl | exact absurd rfl hne

/-! ## Words -/

def settingWord (s : Setting) (value : String) : String := "--" ++ s.name ++ "=" ++ value

def settingWords (o : Options) (s : Setting) : List String := (o.values s).map (settingWord s)

def flagWords (o : Options) (f : Flag) : List String := if o.isRaised f then ["--" ++ f.name] else []

def words (o : Options) : List String := Setting.all.flatMap o.settingWords ++ Flag.all.flatMap o.flagWords

/-- The words take options to others, and leave no setting without its value. -/
def Takes (words : List String) (q q' : Options) : Prop :=
  words.foldlM takeWord { options := q } = some { options := q' }

theorem Takes.nil (q : Options) : Takes [] q q := rfl

theorem Takes.append {words words' : List String} (h : Takes words q q') (h' : Takes words' q' q'') :
    Takes (words ++ words') q q'' := by
  unfold Takes at *
  rw [List.foldlM_append, h]
  exact h'

theorem takes_singleton {word : String} (h : takeWord { options := q } word = some { options := q' }) :
    Takes [word] q q' := by
  unfold Takes
  rw [List.foldlM_cons, h]
  rfl

/-! ## Settings -/

theorem takeWord_settingWord (q : Options) (s : Setting) (value : String) :
    takeWord { options := q } (settingWord s value) = (q.set? s value).map fun options => { options } := by
  have hword : (settingWord s value).toList = '-' :: '-' :: (s.name.toList ++ '=' :: value.toList) := by
    simp [settingWord]
  have htake : (s.name.toList ++ '=' :: value.toList).takeWhile (· != '=') = s.name.toList := by
    rw [List.takeWhile_append_of_pos s.ne_equals_of_mem_name, List.takeWhile_cons_of_neg (by decide),
      List.append_nil]
  have hdrop : (s.name.toList ++ '=' :: value.toList).dropWhile (· != '=') = '=' :: value.toList := by
    rw [List.dropWhile_append_of_pos s.ne_equals_of_mem_name, List.dropWhile_cons_of_neg (by decide)]
  have hname : takeName q (s.name.toList ++ '=' :: value.toList) =
      (q.set? s value).map fun options => { options } := by
    unfold takeName
    simp only [htake, hdrop, String.ofList_toList, s.ofName?_name, Option.bind_some]
  rw [← hname]
  unfold takeWord
  rw [hword]
  cases s.name.toList <;> rfl

theorem takes_settingWord {s : Setting} {value : String} (hset : q.set? s value = some q') :
    Takes [settingWord s value] q q' := by
  apply takes_singleton
  rw [takeWord_settingWord, hset]
  rfl

/-- A setting that may be given once. -/
theorem takes_once {α : Type} {s : Setting} {read : String → Option α} {write : α → String}
    {field : Option α → Options}
    (hset : ∀ word, (field none).set? s word = (once none (read word)).map field)
    {a : Option α} (hread : ∀ b, a = some b → read (write b) = some b) :
    Takes ((a.map write).toList.map (settingWord s)) (field none) (field a) := by
  cases a with
  | none => exact Takes.nil _
  | some b =>
    apply takes_settingWord
    rw [hset, hread b rfl]
    rfl

theorem takes_processors (q : Options) (names : List String) :
    Takes (names.map (settingWord .processor)) q { q with processors := q.processors ++ names } := by
  induction names generalizing q with
  | nil =>
    rw [List.append_nil]
    exact Takes.nil q
  | cons name names ih =>
    have hfirst : Takes [settingWord .processor name] q { q with processors := q.processors ++ [name] } :=
      takes_settingWord rfl
    have hrest := ih { q with processors := q.processors ++ [name] }
    rw [List.append_assoc] at hrest
    exact hfirst.append hrest

/-- Paths are not empty, and a config and processors exclude each other. -/
structure IsProper (o : Options) : Prop where
  input : o.input ≠ some ""
  output : o.output ≠ some ""
  config : o.config ≠ some ""
  exclusive : o.config = none ∨ o.processors = []

theorem path?_of_ne {path : Option String} (hpath : path ≠ some "") {word : String}
    (hword : path = some word) : path? word = some word := by
  have hne : word ≠ "" := by
    rintro rfl
    exact hpath hword
  rw [path?, if_neg (by simpa using hne)]

theorem takes_path (s : Setting) (field : Option String → Options)
    (hset : ∀ word, (field none).set? s word = (once none (path? word)).map field)
    {path : Option String} (hpath : path ≠ some "") :
    Takes (path.toList.map (settingWord s)) (field none) (field path) := by
  have hread : ∀ word, path = some word → path? (id word) = some word := fun _ => path?_of_ne hpath
  have htakes := takes_once hset hread
  rwa [Option.map_id] at htakes

theorem takes_count (s : Setting) (field : Option UInt64 → Options)
    (hset : ∀ word, (field none).set? s word = (once none (Text.count? word)).map field)
    (count : Option UInt64) :
    Takes ((count.map fun n => toString n.toNat).toList.map (settingWord s)) (field none) (field count) :=
  takes_once hset fun n _ => count?_toString n

/-- The words of a setting that has no value yet give it one, and leave the others alone. -/
theorem takes_give (ho : o.IsProper) {s : Setting} (hs : q.values s = []) :
    Takes (o.settingWords s) q (o.give q s) := by
  have hpath : ∀ {path : Option String}, path.toList = [] → path = none := Option.toList_eq_nil_iff.mp
  have hcount : ∀ {count : Option UInt64}, (count.map fun n => toString n.toNat).toList = [] →
      count = none := by
    intro count hcount
    exact Option.map_eq_none_iff.mp (hpath hcount)
  cases s with
  | processor =>
    have hprocessors := takes_processors q o.processors
    rwa [show q.processors = [] from hs] at hprocessors
  | input =>
    rw [show q = { q with input := none } by rw [← hpath hs]]
    exact takes_path .input (fun input => { q with input }) (fun _ => rfl) ho.input
  | output =>
    rw [show q = { q with output := none } by rw [← hpath hs]]
    exact takes_path .output (fun output => { q with output }) (fun _ => rfl) ho.output
  | config =>
    rw [show q = { q with config := none } by rw [← hpath hs]]
    exact takes_path .config (fun config => { q with config }) (fun _ => rfl) ho.config
  | n =>
    rw [show q = { q with n := none } by rw [← hcount hs]]
    exact takes_count .n (fun n => { q with n }) (fun _ => rfl) o.n
  | maxAge =>
    rw [show q = { q with maxAge := none } by rw [← hcount hs]]
    exact takes_count .maxAge (fun maxAge => { q with maxAge }) (fun _ => rfl) o.maxAge
  | threshold =>
    rw [show q = { q with threshold := none } by rw [← hcount hs]]
    exact takes_count .threshold (fun threshold => { q with threshold }) (fun _ => rfl) o.threshold

theorem takes_settings (ho : o.IsProper) {settings : List Setting} (hnodup : settings.Nodup)
    (hunset : ∀ s ∈ settings, q.values s = []) :
    Takes (settings.flatMap o.settingWords) q (settings.foldl o.give q) := by
  induction settings generalizing q with
  | nil => exact Takes.nil q
  | cons s settings ih =>
    obtain ⟨hs, hnodup⟩ := List.nodup_cons.mp hnodup
    rw [List.forall_mem_cons] at hunset
    refine (takes_give ho hunset.1).append (ih hnodup ?_)
    intro t ht
    have hne : t ≠ s := ne_of_mem_of_not_mem ht hs
    rw [values_give_of_ne hne, hunset.2 t ht]

/-! ## Flags -/

theorem raiseAs_of_eq {f : Flag} (hf : o.isRaised f = q.isRaised f) : o.raiseAs q f = q := by
  cases q
  cases f <;> simp_all [isRaised, raiseAs]

theorem raise?_of_not_raised {f : Flag} (hq : q.isRaised f = false) (ho : o.isRaised f = true) :
    q.raise? f = some (o.raiseAs q f) := by
  cases f <;> simp_all [isRaised, raiseAs, raise?]

theorem takeWord_flag (q : Options) (f : Flag) :
    takeWord { options := q } ("--" ++ f.name) = (q.raise? f).map fun options => { options } := by
  cases f <;> rfl

theorem takes_raiseAs (o : Options) {f : Flag} (hf : q.isRaised f = false) :
    Takes (o.flagWords f) q (o.raiseAs q f) := by
  unfold flagWords
  cases ho : o.isRaised f with
  | false =>
    rw [raiseAs_of_eq (ho.trans hf.symm)]
    exact Takes.nil q
  | true =>
    apply takes_singleton
    rw [takeWord_flag, raise?_of_not_raised hf ho]
    rfl

theorem takes_flags (o : Options) {flags : List Flag} (hnodup : flags.Nodup)
    (hunset : ∀ f ∈ flags, q.isRaised f = false) :
    Takes (flags.flatMap o.flagWords) q (flags.foldl o.raiseAs q) := by
  induction flags generalizing q with
  | nil => exact Takes.nil q
  | cons f flags ih =>
    obtain ⟨hf, hnodup⟩ := List.nodup_cons.mp hnodup
    rw [List.forall_mem_cons] at hunset
    refine (takes_raiseAs o hunset.1).append (ih hnodup ?_)
    intro g hg
    have hne : g ≠ f := ne_of_mem_of_not_mem hg hf
    rw [isRaised_raiseAs_of_ne hne, hunset.2 g hg]

/-! ## Whole command lines -/

theorem foldl_raiseAs_foldl_give (o : Options) :
    Flag.all.foldl o.raiseAs (Setting.all.foldl o.give {}) = o := by
  simp only [Setting.all, Flag.all, List.foldl_cons, List.foldl_nil, give, raiseAs]

theorem takes_words (ho : o.IsProper) : Takes o.words {} o := by
  have hsettings : Takes (Setting.all.flatMap o.settingWords) {} (Setting.all.foldl o.give {}) :=
    takes_settings ho (by decide) (by decide)
  have hflags : Takes (Flag.all.flatMap o.flagWords) (Setting.all.foldl o.give {})
      (Flag.all.foldl o.raiseAs (Setting.all.foldl o.give {})) := by
    refine takes_flags o (by decide) ?_
    intro f _
    cases f <;> rfl
  rw [foldl_raiseAs_foldl_give] at hflags
  exact hsettings.append hflags

theorem ofWords?_words (ho : o.IsProper) : ofWords? o.words = some o := by
  have hwords : o.words.foldlM takeWord {} = some { options := o } := takes_words ho
  unfold ofWords?
  rw [hwords]
  rcases ho.exclusive with hconfig | hprocessors
  · simp [hconfig]
  · simp [hprocessors]

end Options
end Compaction.Command
