import SceneLoop.Toml.Scalar

/-!
# Reading a settings document

A document is a sequence of lines: empty ones, headings of tables and of arrays of tables, and
keys with values.  Arrays and inline tables may go over several lines and may end with a comma.
Where values nest, a first argument bounds the number of steps; every two steps read a character, up
to a bounded nesting, so that twice the length of the document is always enough.

## Main definitions

* `Toml.parse?` : the value of a document.
-/

namespace SceneLoop.Toml

/-- Whether a character may stand in a comment or, unescaped, in a text. -/
def isPlain (c : Char) : Bool :=
  c = '\t' || (0x20 ≤ c.toNat && c.toNat ≠ 0x7F)

/-- Skip blanks within a line. -/
def skipBlanks (cs : List Char) : List Char :=
  cs.dropWhile fun c => c = ' ' || c = '\t'

/-- Skip a comment, if there is one. -/
def skipComment : List Char → List Char
  | '#' :: rest => rest.dropWhile isPlain
  | cs => cs

/-- What follows the end of a line, after blanks and a comment. -/
def endLine? (cs : List Char) : Option (List Char) :=
  match skipComment (skipBlanks cs) with
  | [] => some []
  | '\n' :: rest | '\r' :: '\n' :: rest => some rest
  | _ => none

/-- Skip blanks, line breaks and comments; the flag says whether a comment has begun. -/
def skipGap? : Bool → List Char → Option (List Char)
  | _, [] => some []
  | _, '\n' :: rest | _, '\r' :: '\n' :: rest => skipGap? false rest
  | true, c :: rest => if isPlain c then skipGap? true rest else none
  | false, '#' :: rest => skipGap? true rest
  | false, ' ' :: rest | false, '\t' :: rest => skipGap? false rest
  | false, cs => some cs

/-- The character with a code, unless the code is not that of a character. -/
def charOf? (code : Nat) : Option Char :=
  if code.isValidChar then some (Char.ofNat code) else none

/-- The number with some hexadecimal digits. -/
def hexCode? (digits : List Char) : Option Nat :=
  if digits.all (isDigitIn 16) then some (digits.foldl (fun n c => n * 16 + digitValue c) 0)
  else none

/-- The character with a code in hexadecimal digits. -/
def escaped? (digits : List Char) : Option Char :=
  (hexCode? digits).bind charOf?

/-- The character that a letter after a backslash stands for. -/
def shortEscape? : Char → Option Char
  | 'b' => some '\x08'
  | 't' => some '\t'
  | 'n' => some '\n'
  | 'f' => some '\x0c'
  | 'r' => some '\r'
  | 'e' => some '\x1b'
  | '"' => some '"'
  | '\\' => some '\\'
  | _ => none

/-- The rest of a text after its opening quote, and what follows it. -/
def basic? (acc : List Char) : List Char → Option (String × List Char)
  | [] => none
  | '"' :: rest => some (String.ofList acc.reverse, rest)
  | '\\' :: 'u' :: a :: b :: c :: d :: rest => do
    basic? ((← escaped? [a, b, c, d]) :: acc) rest
  | '\\' :: 'U' :: a :: b :: c :: d :: e :: f :: g :: h :: rest => do
    basic? ((← escaped? [a, b, c, d, e, f, g, h]) :: acc) rest
  | '\\' :: 'x' :: a :: b :: rest => do basic? ((← escaped? [a, b]) :: acc) rest
  | '\\' :: c :: rest => do basic? ((← shortEscape? c) :: acc) rest
  | c :: rest => if isPlain c && c ≠ '\\' then basic? (c :: acc) rest else none

/-- What is being skipped in a text over several lines after a backslash. -/
inductive Fold where
  /-- Nothing. -/
  | none
  /-- Blanks before the end of the line, which has to come. -/
  | toLineEnd
  /-- Blanks and line breaks before the next character. -/
  | toText

/-- The rest of a text over several lines after its opening quotes, and what follows it.  One or
two quotes may stand before the closing ones. -/
def basicLines? (acc : List Char) : Fold → List Char → Option (String × List Char)
  | _, [] => none
  | .toLineEnd, '\n' :: rest | .toLineEnd, '\r' :: '\n' :: rest => basicLines? acc .toText rest
  | .toLineEnd, c :: rest =>
    if c = ' ' || c = '\t' then basicLines? acc .toLineEnd rest else none
  | .toText, '\n' :: rest | .toText, '\r' :: '\n' :: rest | .toText, ' ' :: rest
  | .toText, '\t' :: rest => basicLines? acc .toText rest
  | _, '"' :: '"' :: '"' :: '"' :: '"' :: rest =>
    some (String.ofList ('"' :: '"' :: acc).reverse, rest)
  | _, '"' :: '"' :: '"' :: '"' :: rest => some (String.ofList ('"' :: acc).reverse, rest)
  | _, '"' :: '"' :: '"' :: rest => some (String.ofList acc.reverse, rest)
  | _, '\\' :: 'u' :: a :: b :: c :: d :: rest => do
    basicLines? ((← escaped? [a, b, c, d]) :: acc) .none rest
  | _, '\\' :: 'U' :: a :: b :: c :: d :: e :: f :: g :: h :: rest => do
    basicLines? ((← escaped? [a, b, c, d, e, f, g, h]) :: acc) .none rest
  | _, '\\' :: 'x' :: a :: b :: rest => do
    basicLines? ((← escaped? [a, b]) :: acc) .none rest
  | _, '\\' :: '\n' :: rest | _, '\\' :: '\r' :: '\n' :: rest => basicLines? acc .toText rest
  | _, '\\' :: ' ' :: rest | _, '\\' :: '\t' :: rest => basicLines? acc .toLineEnd rest
  | _, '\\' :: c :: rest => do basicLines? ((← shortEscape? c) :: acc) .none rest
  | _, '\n' :: rest | _, '\r' :: '\n' :: rest => basicLines? ('\n' :: acc) .none rest
  | _, c :: rest =>
    if isPlain c && c ≠ '\\' then basicLines? (c :: acc) .none rest else none

/-- The rest of a text without escapes after its opening quote, and what follows it. -/
def literal? (acc : List Char) : List Char → Option (String × List Char)
  | [] => none
  | '\'' :: rest => some (String.ofList acc.reverse, rest)
  | c :: rest => if isPlain c then literal? (c :: acc) rest else none

/-- The rest of a text without escapes over several lines. -/
def literalLines? (acc : List Char) : List Char → Option (String × List Char)
  | [] => none
  | '\'' :: '\'' :: '\'' :: '\'' :: '\'' :: rest =>
    some (String.ofList ('\'' :: '\'' :: acc).reverse, rest)
  | '\'' :: '\'' :: '\'' :: '\'' :: rest => some (String.ofList ('\'' :: acc).reverse, rest)
  | '\'' :: '\'' :: '\'' :: rest => some (String.ofList acc.reverse, rest)
  | '\n' :: rest | '\r' :: '\n' :: rest => literalLines? ('\n' :: acc) rest
  | c :: rest => if isPlain c then literalLines? (c :: acc) rest else none

/-- Skip a line break at the start of a text over several lines. -/
def skipFirstBreak : List Char → List Char
  | '\n' :: rest | '\r' :: '\n' :: rest => rest
  | cs => cs

/-- Whether a character may stand in a key without quotes. -/
def isBare (c : Char) : Bool :=
  c.isAlphanum || c = '_' || c = '-'

/-- A key without dots. -/
def simpleKey? : List Char → Option (String × List Char)
  | '"' :: rest => basic? [] rest
  | '\'' :: rest => literal? [] rest
  | cs =>
    let key := cs.takeWhile isBare
    if key.isEmpty then none else some (String.ofList key, cs.dropWhile isBare)

/-- A key with its parts between dots, and what follows it and the blanks after it. -/
def key? : Nat → List Char → Option (List String × List Char)
  | 0, _ => none
  | n + 1, cs => do
    let (part, cs) ← simpleKey? cs
    match skipBlanks cs with
    | '.' :: rest =>
      let (parts, cs) ← key? n (skipBlanks rest)
      return (part :: parts, cs)
    | cs => return ([part], cs)

/-- Whether a character may stand in a number or a moment. -/
def isScalarChar (c : Char) : Bool :=
  c.isAlphanum || c = '_' || c = '-' || c = '+' || c = '.' || c = ':'

/-- A truth value, number or moment; a date and a time may have a blank between them. -/
def scalar? (cs : List Char) : Option (Toml × List Char) :=
  let run := cs.takeWhile isScalarChar
  let rest := cs.dropWhile isScalarChar
  match rest with
  | ' ' :: c :: more =>
    if afterDate? run = some [] && c.isDigit then
      (ofScalar? (run ++ ' ' :: (c :: more).takeWhile isScalarChar)).map fun v =>
        (v, (c :: more).dropWhile isScalarChar)
    else (ofScalar? run).map fun v => (v, rest)
  | _ => (ofScalar? run).map fun v => (v, rest)

mutual

/-- A value, with at most `depth` arrays and tables in each other. -/
def value? : Nat → Nat → List Char → Option (Toml × List Char)
  | 0, _, _ => none
  | n + 1, depth, cs =>
    match cs with
    | '"' :: '"' :: '"' :: rest => (basicLines? [] .none (skipFirstBreak rest)).map textOf
    | '"' :: rest => (basic? [] rest).map textOf
    | '\'' :: '\'' :: '\'' :: rest => (literalLines? [] (skipFirstBreak rest)).map textOf
    | '\'' :: rest => (literal? [] rest).map textOf
    | '[' :: rest => if depth = 0 then none else items? n (depth - 1) [] rest
    | '\x7b' :: rest => if depth = 0 then none else entries? n (depth - 1) [] rest
    | _ => scalar? cs
where
  /-- A text as a value. -/
  textOf (r : String × List Char) : Toml × List Char := (.text r.1, r.2)

/-- The rest of an array, after its bracket or a comma. -/
def items? : Nat → Nat → List Toml → List Char → Option (Toml × List Char)
  | 0, _, _, _ => none
  | n + 1, depth, acc, cs => do
    match ← skipGap? false cs with
    | ']' :: rest => return (.array acc.reverse, rest)
    | cs =>
      let (v, cs) ← value? n depth cs
      match ← skipGap? false cs with
      | ',' :: rest => items? n depth (v :: acc) rest
      | ']' :: rest => return (.array (v :: acc).reverse, rest)
      | _ => none

/-- The rest of an inline table, after its brace or a comma. -/
def entries? : Nat → Nat → List (String × Node) → List Char → Option (Toml × List Char)
  | 0, _, _, _ => none
  | n + 1, depth, acc, cs => do
    match ← skipGap? false cs with
    | '\x7d' :: rest => return (.table (Node.valueEntries acc), rest)
    | cs =>
      let (key, cs) ← key? n cs
      let '=' :: cs := cs | none
      let (v, cs) ← value? n depth (skipBlanks cs)
      let acc ← Node.assign v true key acc
      match ← skipGap? false cs with
      | ',' :: rest => entries? n depth acc rest
      | '\x7d' :: rest => return (.table (Node.valueEntries acc), rest)
      | _ => none

end

/-- Arrays and inline tables nest at most this deep. -/
def depthLimit : Nat := 80

/-- The heading of a table or, with two brackets, of an array of tables; without its first
bracket. -/
def heading? (n : Nat) (cs : List Char) : Option (Bool × List String × List Char) := do
  match cs with
  | '[' :: cs =>
    let (key, cs) ← key? n (skipBlanks cs)
    let ']' :: ']' :: cs := cs | none
    return (true, key, cs)
  | cs =>
    let (key, cs) ← key? n (skipBlanks cs)
    let ']' :: cs := cs | none
    return (false, key, cs)

/-- Apply a heading to a document. -/
def applyHeading (isArray : Bool) (key : List String) (root : List (String × Node)) :
    Option (List (String × Node)) :=
  match key.getLast? with
  | none => none
  | some last =>
    Node.within (if isArray then Node.openArray last else Node.openTable last) key.dropLast root

/-- Read the lines of a document under the last heading. -/
def lines? : Nat → List String → List (String × Node) → List Char → Option (List (String × Node))
  | 0, _, _, _ => none
  | n + 1, current, root, cs =>
    match skipBlanks cs with
    | [] => some root
    | '[' :: rest => do
      let (isArray, key, rest) ← heading? n rest
      let root ← applyHeading isArray key root
      lines? n key root (← endLine? rest)
    | c :: rest =>
      if c = '#' || c = '\n' || c = '\r' then do
        lines? n current root (← endLine? (c :: rest))
      else do
        let (key, rest) ← key? n (c :: rest)
        let '=' :: rest := rest | none
        let (v, rest) ← value? n depthLimit (skipBlanks rest)
        let root ← Node.within (Node.assign v true key) current root
        lines? n current root (← endLine? rest)

/-- The value of a document. -/
def parse? (document : String) : Option Toml :=
  let cs := match document.toList with
    | '\uFEFF' :: rest => rest
    | cs => cs
  (lines? (2 * cs.length + 1) [] [] cs).map fun root => .table (Node.valueEntries root)

end SceneLoop.Toml
