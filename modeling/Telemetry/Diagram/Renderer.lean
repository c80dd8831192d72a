import Telemetry.CallGraph.Chains
import Telemetry.Diagram.Error
import Telemetry.Number.Decimal
import Telemetry.Text.Blank

/-!
# Drawing a description

A renderer turns the description of a graph into text to show. The built-in
one draws every chain on a line of its own.

* `Chain.ofLine`: a line of a description taken apart;
* `Chain.drawn`: a chain as it is drawn;
* `Renderer.lines`: the built-in renderer.
-/

namespace Telemetry

open Telemetry.Text

/-- A call of a chain: how often it was counted, and the service called. -/
structure Hop where
  count : Nat
  target : List Char

/-- A chain of calls: where it starts, and its calls. -/
structure Chain where
  source : List Char
  hops : List Hop

namespace Chain

/-- What separates the services of a line: an arrow and the beginning of a
count. -/
def separator : List Char := ' ' :: CallGraph.arrow ++ ['|']

/-- What ends a count. -/
def countEnd : List Char := ['|', ' ']

/-- A count below `2^64`, with an optional plus sign. -/
def count? (cs : List Char) : Option Nat :=
  let ds := match cs with
    | '+' :: rest => rest
    | _ => cs
  (Number.ofDigits? ds).filter (· < 0x10000000000000000)

/-- The part of a line that follows a separator. -/
def hopOfPart (part : List Char) : Except ChainFault Hop :=
  match cut? countEnd part with
  | none => .error .unterminatedCount
  | some (count, target) =>
    match count? (trim count) with
    | none => .error (.invalidCount (String.ofList count))
    | some n =>
      if (trim target).isEmpty then .error .missingTarget else .ok ⟨n, trim target⟩

/-- The calls of the parts of a line, up to the first fault. -/
def hopsOfParts : List (List Char) → Except ChainFault (List Hop)
  | [] => .ok []
  | part :: rest =>
    match hopOfPart part with
    | .error e => .error e
    | .ok hop => (hopsOfParts rest).map (hop :: ·)

/-- The chain that a line without white space at its ends stands for. -/
def ofLine (line : List Char) : Except ChainFault Chain :=
  match pieces separator line with
  | [] => .error .missingSource
  | source :: parts =>
    if (trim source).isEmpty then .error .missingSource
    else
      match hopsOfParts parts with
      | .error e => .error e
      | .ok [] => .error (.noArrow (String.ofList line))
      | .ok hops => .ok ⟨trim source, hops⟩

/-- A call as it is drawn. -/
def drawnHop (h : Hop) : List Char :=
  [' ', '─', '['] ++ Number.digits h.count ++ [']', '→', ' '] ++ h.target

/-- A chain as it is drawn. -/
def drawn (c : Chain) : List Char :=
  c.source ++ c.hops.flatMap drawnHop

end Chain

/-- Turns a description into text to show; the empty text means that there is
nothing to show. -/
abbrev Renderer := String → Except RenderError String

namespace Renderer

/-- The lines of a text that are not blank, without the white space at their ends,
each with its number counted from 1. -/
def numberedLines (text : List Char) : List (Nat × List Char) :=
  ((pieces ['\n'] text).zipIdx 1).filterMap fun (line, n) =>
    if (trim line).isEmpty then none else some (n, trim line)

/-- The word that a header begins with. -/
def headerWord : List Char := ['g', 'r', 'a', 'p', 'h']

/-- Whether a line is the header of a description. -/
def isHeader (line : List Char) : Bool :=
  line == headerWord || (headerWord ++ [' ']).isPrefixOf line

/-- The chains of numbered lines, up to the first line that is none. -/
def chainsOfLines : List (Nat × List Char) → Except RenderError (List Chain)
  | [] => .ok []
  | (n, line) :: rest =>
    match Chain.ofLine line with
    | .error e => .error (.malformedEdge n e)
    | .ok c => (chainsOfLines rest).map (c :: ·)

/-- The chains of a description. -/
def chainsOfText (text : List Char) : Except RenderError (List Chain) :=
  match numberedLines text with
  | [] => .error .missingHeader
  | (_, header) :: rest => if isHeader header then chainsOfLines rest else .error .missingHeader

/-- Draws every chain on a line of its own. -/
def lines : Renderer := fun description =>
  (chainsOfText description.toList).map fun chains =>
    String.ofList (List.intercalate ['\n'] (chains.map Chain.drawn))

/-- Shows the description as it is. -/
def echo : Renderer := .ok

/-- Fails always, for a given reason. -/
def failing (reason : String) : Renderer := fun _ => .error (.backend reason)

end Renderer

end Telemetry
