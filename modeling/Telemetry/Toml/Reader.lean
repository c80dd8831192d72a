import Telemetry.Toml.Scalar

/-!
# Reading TOML documents

* `value?`: a value, with arrays and tables in it to a limited depth;
* `lines?`: the lines of a document, one after the other, into a `Builder`;
* `Toml.document?`: the table that a text stands for, if it is TOML.
-/

namespace Telemetry.Toml

/-- A comment at the start of a text, if there is one. -/
def skipComment : List Char → List Char
  | '#' :: cs => cs.dropWhile isPlain
  | cs => cs

/-- The end of a line, after white space and a comment: what follows it. -/
def lineEndAfter? (cs : List Char) : Option (List Char) :=
  match skipComment (skipSpace cs) with
  | [] => some []
  | cs => newline? cs

/-- The text from its first character that is no white space, line break or
comment; `lines` bounds the number of lines. -/
def skipLines? : (lines : Nat) → List Char → Option (List Char)
  | 0, _ => none
  | lines + 1, cs =>
    match skipSpace cs with
    | '#' :: cs => (newline? (skipComment ('#' :: cs))).bind (skipLines? lines)
    | '\n' :: cs | '\r' :: '\n' :: cs => skipLines? lines cs
    | cs => some cs

/-- The text from its first character that is no white space, line break or
comment. -/
def skipBlank? (cs : List Char) : Option (List Char) := skipLines? (cs.length + 1) cs

mutual

/-- The value at the start of a text, and what follows it. Arrays and tables may be
nested `depth` times. -/
def value? (depth : Nat) (cs : List Char) : Option (Item × List Char) :=
  match depth, cs with
  | depth + 1, '[' :: cs =>
    (items? depth (cs.length + 1) [] cs).map fun (items, rest) => (.arr items, rest)
  | depth + 1, '\x7b' :: cs =>
    match skipSpace cs with
    | '\x7d' :: rest => some (.table .inline [], rest)
    | _ => (pairs? depth (cs.length + 1) [] cs).map fun (entries, rest) =>
        (.table .inline entries, rest)
  | 0, '[' :: _ | 0, '\x7b' :: _ => none
  | _, cs => scalarItem? cs
termination_by (depth, 0)

/-- The items of an array up to its closing bracket, after those `before` in
reverse; `count` bounds their number. -/
def items? (depth count : Nat) (before : List Item) (cs : List Char) :
    Option (List Item × List Char) :=
  match count with
  | 0 => none
  | count + 1 =>
    match skipBlank? cs with
    | none => none
    | some (']' :: rest) => some (before.reverse, rest)
    | some cs =>
      match value? depth cs with
      | none => none
      | some (item, rest) =>
        match skipBlank? rest with
        | some (',' :: rest) => items? depth count (item :: before) rest
        | some (']' :: rest) => some ((item :: before).reverse, rest)
        | _ => none
termination_by (depth, count + 1)

/-- The key-value pairs of a table between braces up to its closing brace, added to
the entries `before`; `count` bounds their number. -/
def pairs? (depth count : Nat) (before : Entries) (cs : List Char) :
    Option (Entries × List Char) :=
  match count with
  | 0 => none
  | count + 1 =>
    match key? cs with
    | some ((path, key), '=' :: rest) =>
      match value? depth (skipSpace rest) with
      | none => none
      | some (item, rest) =>
        match before.assign? path key item, skipSpace rest with
        | some entries, ',' :: rest => pairs? depth count entries rest
        | some entries, '\x7d' :: rest => some (entries, rest)
        | _, _ => none
    | _ => none
termination_by (depth, count + 1)

end

/-- A header with the given brackets: its path, and what follows its line. -/
def header? (closing : List Char) (cs : List Char) : Option (List String × List Char) := do
  let ((path, key), rest) ← key? cs
  guard (closing.isPrefixOf rest)
  return (path ++ [key], ← lineEndAfter? (rest.drop closing.length))

/-- What a line does to the document, and the lines that follow it. -/
def line? (b : Builder) (cs : List Char) : Option (Builder × List Char) :=
  match skipSpace cs with
  | '#' :: _ | '\n' :: _ | '\r' :: _ => (lineEndAfter? cs).map (b, ·)
  | [] => some (b, [])
  | '[' :: '[' :: cs => do
    let (path, rest) ← header? [']', ']'] cs
    return (← b.openElement? path, rest)
  | '[' :: cs => do
    let (path, rest) ← header? [']'] cs
    return (← b.openTable? path, rest)
  | cs => do
    let ((path, key), rest) ← key? cs
    match rest with
    | '=' :: rest => do
      let (item, rest) ← value? nestingLimit (skipSpace rest)
      return (← b.assign? path key item, ← lineEndAfter? rest)
    | _ => none

/-- The document that lines build up; `count` bounds their number. -/
def lines? (b : Builder) : (count : Nat) → List Char → Option Entries
  | _, [] => b.finish?
  | 0, _ => none
  | count + 1, cs =>
    match line? b cs with
    | some (b, rest) => lines? b count rest
    | none => none

/-- A text without the mark of its byte order. -/
def skipByteOrderMark : List Char → List Char
  | '\uFEFF' :: cs => cs
  | cs => cs

/-- The table that a TOML document stands for. -/
def document? (s : String) : Option Item :=
  let cs := skipByteOrderMark s.toList
  (lines? .start (cs.length + 1) cs).map (.table .header)

end Telemetry.Toml
