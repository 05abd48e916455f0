import Compaction.Text.Bytes
import Compaction.Text.CharClass
import Compaction.Text.Scan

/-!
# Windows

The file viewer prints `[File: <path> (<N> lines total)]` above the lines of a file that it shows, and each of these
behind its number, as in `12:fn main`.

* `closesHeader`, `endsPath`, `longestPath?`, `pathAfterSpace?` : the parts of a header behind its opening;
* `headerPath?` : the path of the first header of a text;
* `Span` : a part of a text, between two places of its encoding;
* `startsNumbered` : a text starts with a line number and a colon;
* `numberedLines` : the spans of all numbered lines of a text, each up to and including its line feed;
* `Window` : what an output shows of a file: the path, the span of the numbered lines, their number;
* `findWindow` : the window in a text, which needs both a numbered line and a header;
* `collapse` : the text with its window replaced by a notice, and all else unchanged.

The path behind an opening is found in one pass over its line, however much white space there is.
-/

namespace Compaction.FileView

/-! ## Headers -/

def headerOpening : List Char := "[File:".toList

def headerClosing : List Char := "lines total)]".toList

/-- The text starts with the number of lines, which opens a parenthesis, and the end of a header. -/
def closesHeader (cs : List Char) : Bool :=
  ((Text.behind? ['('] cs).bind fun cs =>
    (Text.behindRun? Text.isDecimalDigit cs).bind fun cs =>
      (Text.behindRun? Text.isWhiteSpace cs).bind (Text.behind? headerClosing)).isSome

/-- The text starts with white space behind which a header closes, and none of which could belong to
a path before it: a line feed and any more white space, or else a single character. -/
def endsPath : List Char → Bool
  | [] => false
  | c :: cs =>
    if c == '\n' then closesHeader (cs.dropWhile Text.isWhiteSpace)
    else Text.isWhiteSpace c && closesHeader cs

/-- The longest path at the start of a text, without a line feed, behind which a header closes. -/
def longestPath? : List Char → Option (List Char)
  | [] => none
  | c :: cs =>
    match if c == '\n' then none else longestPath? cs with
    | some path => some (c :: path)
    | none => if endsPath (c :: cs) then some [] else none

/-- The path behind one or more characters of white space. The run takes all of them, unless nothing
but the end of the header follows: the path is then empty, and the last character stands behind it. -/
def pathAfterSpace? (cs : List Char) : Option (List Char) :=
  let run := cs.takeWhile Text.isWhiteSpace
  let rest := cs.dropWhile Text.isWhiteSpace
  if run.isEmpty then none
  else
    match longestPath? rest with
    | some path => some path
    | none => if 1 < run.length && closesHeader rest then some [] else none

def headerPath? : List Char → Option (List Char)
  | [] => none
  | c :: cs =>
    match (Text.behind? headerOpening (c :: cs)).bind pathAfterSpace? with
    | some path => some path
    | none => headerPath? cs

/-! ## Numbered lines -/

/-- The part of a text between two places, which are counted in bytes of the encoding. -/
structure Span where
  start : Nat
  stop : Nat
  deriving DecidableEq

/-- The text starts with one or more decimal digits and a colon. -/
def startsNumbered (cs : List Char) : Bool :=
  match Text.behindRun? Text.isDecimalDigit cs with
  | some (':' :: _) => true
  | _ => false

/-- One pass over a text from the place `offset` on: `atStart` says that a line starts here, and `opened` holds
the start of the numbered line that the pass is in. A line ends after its line feed or with the text. -/
def numberedLinesFrom (atStart : Bool) (opened : Option Nat) (offset : Nat) : List Char → List Span
  | [] => (opened.map fun start => ⟨start, offset⟩).toList
  | c :: cs =>
    let opened := if atStart && startsNumbered (c :: cs) then some offset else opened
    let next := offset + c.utf8Size
    if c == '\n' then
      (opened.map fun start => (⟨start, next⟩ : Span)).toList ++ numberedLinesFrom true none next cs
    else numberedLinesFrom false opened next cs

def numberedLines (cs : List Char) : List Span := numberedLinesFrom true none 0 cs

/-! ## Windows -/

/-- What an output shows of a file: the numbered lines between two places, the last line feed included. -/
structure Window where
  file : String
  start : Nat
  stop : Nat
  lines : Nat
  deriving DecidableEq

/-- The window in a text. Its path is that of the first header, wherever that stands. -/
def findWindow (content : String) : Option Window :=
  match numberedLines content.toList with
  | [] => none
  | first :: more =>
    (headerPath? content.toList).map fun path =>
      { file := String.ofList path
        start := first.start
        stop := (more.getLastD first).stop
        lines := more.length + 1 }

def collapsedNotice (lines : Nat) : String :=
  "Outdated window with " ++ toString lines ++ " lines omitted...\n"

def collapse (content : String) (w : Window) : String :=
  String.ofList (Text.takeBytes w.start content.toList ++ (collapsedNotice w.lines).toList
    ++ Text.dropBytes w.stop content.toList)

end Compaction.FileView
