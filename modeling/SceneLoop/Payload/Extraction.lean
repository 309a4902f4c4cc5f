import SceneLoop.Json.Reader
import SceneLoop.Text.Blank

/-!
# Finding a value in a text

A payload may come as a text in which the value stands between marks or in the midst of prose.  The
places to look at are tried from the most to the least structured: the whole text, a block between
fences of three backticks, a stretch between two brackets, and in the end every stretch that begins
at the first bracket.  Each fence and bracket rule has at most one candidate, the leftmost and then
the shortest; a candidate that is not a value is not replaced by another one.

## Main definitions

* `Strategy` : the places to look at.
* `Extraction.fenced?`, `Extraction.bare?` : the candidate of a rule.
* `Extraction.scan?` : the shortest value that begins at the first bracket.
* `Extraction.find?` : the value in a text, with the place where it was found.
-/

namespace SceneLoop

/-- A place to look for a value in a text. -/
inductive Strategy where
  /-- The whole text. -/
  | direct
  /-- Between fences, the first of which names the format. -/
  | fencedJson
  /-- Between fences. -/
  | fenced
  /-- Between braces. -/
  | bareObject
  /-- Between brackets. -/
  | bareArray
  /-- From the first bracket to some later one. -/
  | scan
deriving DecidableEq, Repr

namespace Strategy

/-- The name of a strategy as it is shown. -/
def label : Strategy → String
  | .direct => "whole string"
  | .fencedJson => "\x60\x60\x60json fence"
  | .fenced => "\x60\x60\x60 fence"
  | .bareObject => "bare \x7b...\x7d"
  | .bareArray => "bare [...]"
  | .scan => "bracket scan"

end Strategy

namespace Extraction

/-- Three backticks. -/
def fence : List Char := ['\x60', '\x60', '\x60']

/-- Whether a letter is a given small letter in either case; the long s counts as an s. -/
def matchesLetter (small c : Char) : Bool :=
  c.toLower = small || (small = 's' && c = 'ſ')

/-- The rest of a text after some letters in any case. -/
def afterLetters? : List Char → List Char → Option (List Char)
  | [], cs => some cs
  | _ :: _, [] => none
  | l :: ls, c :: cs => if matchesLetter l c then afterLetters? ls cs else none

/-- The rest of a text after a fence with the given letters. -/
def afterFence? (letters cs : List Char) : Option (List Char) :=
  (Text.stripStart? fence cs).bind (afterLetters? letters)

/-- Whether blanks and a fence follow. -/
def closesHere (cs : List Char) : Bool :=
  (Text.stripStart? fence (cs.dropWhile Text.isBlank)).isSome

/-- The shortest beginning that ends in a given character and is followed by what `follows`
accepts. -/
def upTo? (last : Char) (follows : List Char → Bool) : List Char → Option (List Char)
  | [] => none
  | c :: cs =>
    if c = last && follows cs then some [c]
    else (upTo? last follows cs).map (c :: ·)

/-- The block right after a fence: blanks, then from an opening brace to the first closing one with
blanks and a fence after it. -/
def block? (cs : List Char) : Option (List Char) :=
  match cs.dropWhile Text.isBlank with
  | '\x7b' :: rest => (upTo? '\x7d' closesHere rest).map ('\x7b' :: ·)
  | _ => none

/-- The block after the leftmost fence that has one. -/
def fenced? (letters : List Char) : List Char → Option (List Char)
  | [] => none
  | c :: cs =>
    match (afterFence? letters (c :: cs)).bind block? with
    | some block => some block
    | none => fenced? letters cs

/-- From the first opening character to the first closing one after it. -/
def bare? (first last : Char) (cs : List Char) : Option (List Char) :=
  match cs.dropWhile (· ≠ first) with
  | [] => none
  | c :: rest => (upTo? last (fun _ => true) rest).map (c :: ·)

/-- The candidate of a fence or bracket rule. -/
def candidate? (cs : List Char) : Strategy → Option (List Char)
  | .fencedJson => fenced? ['j', 's', 'o', 'n'] cs
  | .fenced => fenced? [] cs
  | .bareObject => bare? '\x7b' '\x7d' cs
  | .bareArray => bare? '[' ']' cs
  | .direct => some cs
  | .scan => none

/-- Whether a character opens an array or object. -/
def opens (c : Char) : Bool :=
  c = '\x7b' || c = '['

/-- Whether a character closes an array or object. -/
def closes (c : Char) : Bool :=
  c = '\x7d' || c = ']'

/-- The beginnings of a text that end in a closing character, shortest first; `read` is what stands
before them, last character first. -/
def closedBeginnings (read : List Char) : List Char → List (List Char)
  | [] => []
  | c :: cs =>
    if closes c then (c :: read).reverse :: closedBeginnings (c :: read) cs
    else closedBeginnings (c :: read) cs

/-- The first value among the stretches from the first opening character to a closing one. -/
def scan? (cs : List Char) : Option Json :=
  (closedBeginnings [] (cs.dropWhile fun c => !opens c)).findSome? Json.parseChars?

/-- The strategies that have one candidate, in order. -/
def singleCandidate : List Strategy :=
  [.direct, .fencedJson, .fenced, .bareObject, .bareArray]

/-- The value that a strategy with one candidate finds. -/
def attempt? (cs : List Char) (s : Strategy) : Option (Json × Strategy) :=
  ((candidate? cs s).bind Json.parseChars?).map (·, s)

/-- The value in a text, with the place where it was found. -/
def findChars? (cs : List Char) : Option (Json × Strategy) :=
  match singleCandidate.findSome? (attempt? cs) with
  | some found => some found
  | none => (scan? cs).map (·, .scan)

/-- The value in a text, with the place where it was found. -/
def find? (s : String) : Option (Json × Strategy) :=
  findChars? s.toList

/-- The value in a payload: what a text holds, or the payload itself. -/
def ofPayload? : Json → Option Json
  | .text s => (find? s).map (·.1)
  | v => some v

end Extraction

end SceneLoop
