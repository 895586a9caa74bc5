import Playground.Decimal.Binary
import Playground.Json.Value
import Playground.Text.Number

/-!
# Requests

The shape of a request body. Each part that has the wrong shape counts as one mistake, and all of
them are counted. A name in capitals (`WorkspaceType`) wins over its plain spelling
(`workspace_type`); parts without a meaning are skipped.
-/

namespace Playground

/-- A buffer of a request. -/
structure BufferRequest where
  id : String
  content : String
  position : Option Int
  deriving DecidableEq, Repr, Inhabited

/-- A file of a request. -/
structure FileRequest where
  name : String
  text : String
  deriving DecidableEq, Repr, Inhabited

/-- A request, in any of its three shapes: with a buffer, with a source, or with several buffers. -/
structure Request where
  buffer : Option String := none
  source : Option String := none
  position : Option Int := none
  buffers : Option (List BufferRequest) := none
  usings : Option (List String) := none
  kind : Option String := none
  files : Option (List FileRequest) := none
  activeId : Option String := none
  deriving DecidableEq, Repr, Inhabited

namespace Request

/-- A part of a request, or the number of mistakes in it. -/
abbrev Checked (α : Type) := Except Nat α

/-- Both of two parts; the mistakes add up. -/
def both {α β : Type} (f : Checked (α → β)) (x : Checked α) : Checked β :=
  match f, x with
  | .ok f, .ok x => .ok (f x)
  | .error m, .error n => .error (m + n)
  | .error m, .ok _ => .error m
  | .ok _, .error n => .error n

/-- All parts of a list; the mistakes add up. -/
def all {α β : Type} (check : α → Checked β) : List α → Checked (List β)
  | [] => .ok []
  | x :: rest => both ((check x).map fun y ys => y :: ys) (all check rest)

/-- The part of a name, by its spelling in capitals or its plain one. -/
def part? (fields : List (String × Json)) (capital plain : String) : Option Json :=
  (Json.field? fields capital).or (Json.field? fields plain)

/-- A text. -/
def text : Json → Checked String
  | .text s => .ok s
  | _ => .error 1

/-- A part that may be missing or null. -/
def optional {α : Type} (check : Json → Checked α) : Option Json → Checked (Option α)
  | none | some .null => .ok none
  | some v => (check v).map some

/-- A part that may be missing, but not null. -/
def orElse {α : Type} (default : α) (check : Json → Checked α) : Option Json → Checked α
  | none => .ok default
  | some v => check v

/-- Digits, or digits with a fraction of zeros. -/
def wholeDigits? (s : List Char) : Option (List Char) :=
  match Text.digitRun s with
  | ([], _) => none
  | (digits, []) => some digits
  | (digits, '.' :: zeros) =>
    if !zeros.isEmpty && zeros.all (· == '0') then some digits else none
  | _ => none

/-- A whole number written as a text. -/
def numeral (s : String) : Checked Int :=
  let (negative, rest) := Text.signed (Text.trimSpace s.toList)
  match wholeDigits? rest with
  | none => .error 1
  | some digits =>
    let digits := digits.dropWhile (· == '0')
    if digits.length > Text.maxDigits then .error 1
    else
      let n : Int := Decimal.ofDigits digits
      .ok (if negative then -n else n)

/-- The greatest whole number that a decimal may stand for. -/
def maxWhole : Int := 0x7fffffffffffffff

/-- A whole number: an integer, a truth value, a decimal without a fraction that fits into 64 bits,
or a numeral. -/
def whole : Json → Checked Int
  | .int n => .ok n
  | .bool b => .ok (if b then 1 else 0)
  | .float x =>
    match Decimal.whole? x with
    | some n => if -maxWhole ≤ n ∧ n ≤ maxWhole then .ok n else .error 1
    | none => .error 1
  | .text s => numeral s
  | _ => .error 1

/-- A list of parts. -/
def list {α : Type} (check : Json → Checked α) : Json → Checked (List α)
  | .list vs => all check vs
  | _ => .error 1

/-- A buffer of a request. -/
def ofBuffer : Json → Checked BufferRequest
  | .object fields =>
    both (both ((orElse "" text (part? fields "Id" "id")).map BufferRequest.mk)
      (orElse "" text (part? fields "Content" "content")))
      (optional whole (part? fields "Position" "position"))
  | _ => .error 1

/-- A file of a request; it must have a name. -/
def ofFile : Json → Checked FileRequest
  | .object fields =>
    both ((match part? fields "Name" "name" with
        | some v => text v
        | none => .error 1).map FileRequest.mk)
      (orElse "" text (part? fields "Text" "text"))
  | _ => .error 1

/-- A request. -/
def ofJson : Json → Checked Request
  | .object fields =>
    let part := part? fields
    both (both (both (both (both (both (both
      ((optional text (part "Buffer" "buffer")).map Request.mk)
      (optional text (part "Source" "source")))
      (optional whole (part "Position" "position")))
      (optional (list ofBuffer) (part "Buffers" "buffers")))
      (optional (list text) (part "Usings" "usings")))
      (optional text (part "WorkspaceType" "workspace_type")))
      (optional (list ofFile) (part "Files" "files")))
      (optional text (part "ActiveBufferId" "active_buffer_id"))
  | _ => .error 1

end Request

end Playground
