import Compaction.Event
import Compaction.Pattern.WellFormed
import Compaction.Text.Bytes
import Compaction.Text.Digits

/-!
# Directives

* `Scope`, `Directive` : the most detailed level at which some events are shown;
* `Source` : a written directive with its white space and without it;
* `Directive.scope?` : the scope that stands in brackets;
* `Directive.ofText?` : the directive that a text spells out, if it is well formed;
* `Directive.covers`, `Directive.specificity` : the events that a directive is about.
-/

namespace Compaction.Command

inductive Scope where
  | all
  | field (name : String)
  /-- Those inside a span, where this program never is. -/
  | span
  deriving DecidableEq

/-- The most detailed level at which events are shown. -/
structure Directive where
  target : String := ""
  scope : Scope := .all
  /-- The rank of the level, or 0 for no events. -/
  rank : Nat := Level.trace.rank
  deriving DecidableEq

/-! ## Sources -/

/-- A written directive. Its parts are found in the trimmed text and cut out of the whole one at the same
places, so that white space in front shifts every cut. -/
structure Source where
  whole : List Char
  trimmed : List Char

namespace Source

def ofText (text : String) : Source where
  whole := text.toList
  trimmed := ((text.toList.dropWhile Text.isWhiteSpace).reverse.dropWhile Text.isWhiteSpace).reverse

/-- The whole text from the place on where `rest` is what is left of the trimmed one. -/
def onFrom (source : Source) (rest : List Char) : List Char :=
  Text.dropBytes (Text.byteCount source.trimmed - Text.byteCount rest) source.whole

/-- The whole text between two places, where `start` and then `stop` are left of the trimmed one. -/
def cut (source : Source) (start stop : List Char) : List Char :=
  Text.takeBytes (Text.byteCount start - Text.byteCount stop) (source.onFrom start)

end Source

namespace Directive

/-! ## Levels -/

def lowered (text : String) : String := text.map Char.toLower

def rankNamed? (name : String) : Option Nat :=
  match lowered name with
  | "off" => some 0
  | "error" => some 1
  | "warn" => some 2
  | "info" => some 3
  | "debug" => some 4
  | "trace" => some 5
  | _ => none

/-- The rank that a text stands for: a rank by its number, or the name of a level. -/
def rankOf? (text : String) : Option Nat :=
  match Text.count? text with
  | some rank => if rank.toNat ≤ Level.trace.rank then some rank.toNat else none
  | none => rankNamed? text

/-- The directive with the level behind it: an equals sign and a rank. With no rank, or with neither,
all levels are shown. -/
def withLevel? (d : Directive) (source : Source) : List Char → Option Directive
  | [] => some d
  | '=' :: rest =>
    let level := source.onFrom rest
    if level.isEmpty then some d
    else (rankOf? (String.ofList level)).map fun rank => { d with rank }
  | _ => none

/-! ## Scopes -/

/-- The value that a field must have, if it must have some: what stands behind an equals sign, up to
another one. -/
def value? (field : List Char) : Option (List Char) :=
  match field.dropWhile (· != '=') with
  | [] => none
  | _ :: rest => some (rest.takeWhile (· != '='))

/-- The value of a field is a number, or else a pattern. -/
def isValue (value : List Char) : Bool := Text.isDecimal value || Pattern.isWellFormed value

/-- The scope of a field, which may stand inside a span. A field that must have some value is one of
spans. -/
def fieldScope? (inSpan : Bool) (field : List Char) : Option Scope :=
  if field.isEmpty then none
  else
    match value? field with
    | none => some (if inSpan then .span else .field (String.ofList field))
    | some value => if isValue value then some .span else none

/-- The scope behind an opening bracket, and the text behind its closing bracket: a span, perhaps with
a field in braces, or a field alone. -/
def scope? (source : Source) (cs : List Char) : Option (Scope × List Char) :=
  match cs.dropWhile fun c => c != ']' && c != '{' with
  | ']' :: rest => some (.span, rest)
  | _ :: inner =>
    match inner.dropWhile (· != '}') with
    | '}' :: ']' :: rest =>
      let field := source.cut inner ('}' :: ']' :: rest)
      (fieldScope? (cs.head? != some '{') field).map fun scope => (scope, rest)
    | _ => none
  | [] => none

/-! ## Written directives -/

def isStart (c : Char) : Bool :=
  c == '[' || c == '_' || c == ':' || c == '-' || Text.isAlphanumeric c

/-- The directive that a text spells out: a level alone, or else a target, a scope in brackets, and a
level behind an equals sign, each of which may be missing. -/
def ofText? (text : String) : Option Directive :=
  let source := Source.ofText text
  let cs := source.trimmed
  if !cs.head?.any isStart then none
  else
    let rest := cs.dropWhile fun c => c != '=' && c != '['
    let target := String.ofList (source.cut cs rest)
    match rest with
    | [] => some (((rankOf? text).map fun rank => { rank }).getD { target := text })
    | '[' :: inner =>
      (scope? source inner).bind fun (scope, rest) => withLevel? { target, scope } source rest
    | _ => withLevel? { target } source rest

/-! ## Events -/

/-- The directive is about an event, whose only field is its message. -/
def covers (d : Directive) (event : Event) : Bool :=
  d.target.toList.isPrefixOf event.target.toList &&
    match d.scope with
    | .all => true
    | .field name => name == "message"
    | .span => false

/-- How specific a directive is: first the length of its target counts, then whether it asks for a
field. -/
def specificity (d : Directive) : Nat := 2 * d.target.length + if d.scope = .all then 0 else 1

end Directive

end Compaction.Command
