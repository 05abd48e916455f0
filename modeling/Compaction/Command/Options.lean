import Compaction.Config.Basic
import Compaction.Text.Digits

/-!
# Options of the command line

* `Setting`, `Flag` : the options with and without a value;
* `Options` : what the words of a command line ask for;
* `Options.ofWords?` : the options in a list of words, or none if the words are no proper use;
* `Options.stageArgs`, `Options.stages` : the arguments and the stages that the options spell out.
-/

namespace Compaction.Command

inductive Setting where
  | input
  | output
  | config
  | processor
  | n
  | maxAge
  | threshold
  deriving DecidableEq

inductive Flag where
  | pretty
  | noKeepLast
  | shortPlaceholder
  | stats
  | list
  | verbose
  deriving DecidableEq

structure Options where
  input : Option String := none
  output : Option String := none
  pretty : Bool := false
  config : Option String := none
  processors : List String := []
  n : Option UInt64 := none
  maxAge : Option UInt64 := none
  threshold : Option UInt64 := none
  noKeepLast : Bool := false
  shortPlaceholder : Bool := false
  stats : Bool := false
  list : Bool := false
  verbose : Bool := false
  deriving DecidableEq

namespace Setting

def ofName? (name : String) : Option Setting :=
  match name with
  | "input" => some input
  | "output" => some output
  | "config" => some config
  | "processor" => some processor
  | "n" => some n
  | "max-age" => some maxAge
  | "long-output-char-thld" => some threshold
  | _ => none

def ofLetter? : Char → Option Setting
  | 'i' => some input
  | 'o' => some output
  | 'p' => some processor
  | _ => none

end Setting

namespace Flag

def ofName? (name : String) : Option Flag :=
  match name with
  | "pretty" => some pretty
  | "no-keep-last" => some noKeepLast
  | "short-placeholder" => some shortPlaceholder
  | "stats" => some stats
  | "list" => some list
  | "verbose" => some verbose
  | _ => none

def ofLetter? : Char → Option Flag
  | 'v' => some verbose
  | _ => none

end Flag

namespace Options

/-- Gives a value that has not been given before. -/
def once {α : Type} (old new : Option α) : Option (Option α) :=
  match old, new with
  | none, some a => some (some a)
  | _, _ => none

def path? (word : String) : Option String := if word.isEmpty then none else some word

/-- The options with a setting. Only the processor may be set again. -/
def set? (o : Options) (setting : Setting) (word : String) : Option Options :=
  match setting with
  | .input => (once o.input (path? word)).map fun input => { o with input }
  | .output => (once o.output (path? word)).map fun output => { o with output }
  | .config => (once o.config (path? word)).map fun config => { o with config }
  | .processor => some { o with processors := o.processors ++ [word] }
  | .n => (once o.n (Text.count? word)).map fun n => { o with n }
  | .maxAge => (once o.maxAge (Text.count? word)).map fun maxAge => { o with maxAge }
  | .threshold => (once o.threshold (Text.count? word)).map fun threshold => { o with threshold }

/-- The options with a flag, which may not be raised again. -/
def raise? (o : Options) (flag : Flag) : Option Options :=
  match flag with
  | .pretty => if o.pretty then none else some { o with pretty := true }
  | .noKeepLast => if o.noKeepLast then none else some { o with noKeepLast := true }
  | .shortPlaceholder =>
    if o.shortPlaceholder then none else some { o with shortPlaceholder := true }
  | .stats => if o.stats then none else some { o with stats := true }
  | .list => if o.list then none else some { o with list := true }
  | .verbose => if o.verbose then none else some { o with verbose := true }

/-! ## Words -/

structure Progress where
  options : Options := {}
  /-- The setting whose value is the next word. -/
  pending : Option Setting := none
  ended : Bool := false

/-- Takes the letters of a word behind its dash: flags, and then perhaps a setting, whose value is the
rest of the word, behind an equals sign or not, or else the next word. -/
def takeLetters (o : Options) : List Char → Option Progress
  | [] => some { options := o }
  | letter :: rest =>
    match Setting.ofLetter? letter with
    | some setting =>
      match rest with
      | [] => some { options := o, pending := some setting }
      | '=' :: value => (o.set? setting (String.ofList value)).map fun options => { options }
      | value => (o.set? setting (String.ofList value)).map fun options => { options }
    | none =>
      match (Flag.ofLetter? letter).bind o.raise? with
      | some options => takeLetters options rest
      | none => none

/-- Takes a word behind its two dashes: a flag, or a setting, whose value stands behind an equals sign
or is the next word. -/
def takeName (o : Options) (word : List Char) : Option Progress :=
  let name := String.ofList (word.takeWhile (· != '='))
  match word.dropWhile (· != '=') with
  | [] =>
    match Setting.ofName? name with
    | some setting => some { options := o, pending := some setting }
    | none => ((Flag.ofName? name).bind o.raise?).map fun options => { options }
  | _ :: value =>
    ((Setting.ofName? name).bind fun setting => o.set? setting (String.ofList value)).map
      fun options => { options }

/-- Takes one word. A word that starts with a dash is no value, unless it is the dash alone. -/
def takeWord (p : Progress) (word : String) : Option Progress :=
  if p.ended then none
  else
    match p.pending, word.toList with
    | some setting, ['-'] => (p.options.set? setting word).map fun options => { options }
    | some _, '-' :: _ => none
    | some setting, _ => (p.options.set? setting word).map fun options => { options }
    | none, ['-', '-'] => some { p with ended := true }
    | none, '-' :: '-' :: name => takeName p.options name
    | none, '-' :: letter :: letters => takeLetters p.options (letter :: letters)
    | none, _ => none

/-- The options in the words of a command line. A config and processors exclude each other. The words `--help` and `-h`,
which ask for a help text alone, are left out: they count as no proper use. -/
def ofWords? (words : List String) : Option Options := do
  let p ← words.foldlM takeWord {}
  if p.pending.isSome || p.options.config.isSome && !p.options.processors.isEmpty then none
  return p.options

/-! ## Stages -/

def stageArgs (o : Options) : StageArgs where
  n := o.n
  maxAge := o.maxAge
  threshold := o.threshold
  keepLast := if o.noKeepLast then some false else none
  notice := if o.shortPlaceholder then some .short else none

def stages (o : Options) : Config :=
  o.processors.foldl (fun config name => config.push { name, args := o.stageArgs }) {}

end Options

end Compaction.Command
