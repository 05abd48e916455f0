import Compaction.Command.Directive
import Compaction.Text.Digits

/-!
# The log

* `Filter` : directives, of which the most specific one that covers an event decides;
* `Filter.ofText?` : the filter that a text spells out, if all its directives are well formed;
* `Filter.shows` : an event is shown;
* `logLine` : the line of an event.
-/

namespace Compaction.Command

abbrev Filter := List Directive

namespace Filter

def upTo (level : Level) : Filter := [{ rank := level.rank }]

def ofText? (text : String) : Option Filter :=
  ((text.toList.splitOn ',').filter fun part => !part.isEmpty).mapM fun part => Directive.ofText? (String.ofList part)

/-- The better one of two directives for an event: the more specific one, or the later. -/
def better (best : Option Directive) (d : Directive) : Option Directive :=
  match best with
  | none => some d
  | some old => if old.specificity ≤ d.specificity then some d else some old

/-- An event is shown if its level is no more detailed than the best directive for it asks. -/
def shows (filter : Filter) (event : Event) : Bool :=
  match (filter.filter fun d => d.covers event).foldl better none with
  | none => false
  | some d => decide (event.level.rank ≤ d.rank)

end Filter

/-! ## Lines -/

/-- One character of a logged message: those that could steer a terminal are spelled out. -/
def logChar (c : Char) : List Char :=
  if c == '\x1b' || c == '\x07' || c == '\x08' || c == '\x0c' || c == '\x7f' then
    ['\\', 'x', Nat.digitChar (c.toNat / 16), Nat.digitChar (c.toNat % 16)]
  else if 0x80 ≤ c.toNat && c.toNat ≤ 0x9F then
    '\\' :: 'u' :: '{' :: Text.hexDigits c.toNat ++ ['}']
  else [c]

def logLine (event : Event) : String :=
  event.level.label ++ " " ++ event.target ++ ": "
    ++ String.ofList (event.message.toList.flatMap logChar) ++ "\n"

end Compaction.Command
