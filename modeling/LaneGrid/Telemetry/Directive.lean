import LaneGrid.Text.Alphanumeric
import LaneGrid.Text.Blank
import LaneGrid.Text.Word

/-!
Filter directives. A directive names a target, a span with fields, or both, and the level from
which on events pass: `target[span{field=value}]=level`. A level alone stands for all targets.
-/

namespace LaneGrid.Directive

/-- Whether a level is given by its number or by its name, in capitals or not. -/
def isLevel (text : String) : Bool :=
  (Text.word? text).any (· ≤ 5) ||
    ["off", "error", "warn", "info", "debug", "trace"].contains (Text.lower text)

/-- The level behind an equals sign, which may be left out. -/
def isLevelPart (cs : List Char) : Bool :=
  cs.isEmpty || isLevel (String.ofList cs)

/-- What may follow a span: blanks, or a level if levels are allowed. -/
def isSpanEnd (levels : Bool) : List Char → Bool
  | '=' :: level => levels && isLevelPart level
  | cs => cs.all Text.isBlank

/-- The fields of a span from behind the opening brace on, and what follows the span. -/
def isFieldsPart (levels : Bool) (cs : List Char) : Bool :=
  match cs.span (· ≠ '\x7d') with
  | (_ :: _, '\x7d' :: ']' :: rest) => isSpanEnd levels rest
  | _ => false

def isSpanPart (levels : Bool) (cs : List Char) : Bool :=
  match cs.dropWhile fun c => c ≠ ']' && c ≠ '\x7b' with
  | [] => false
  | ']' :: rest => isSpanEnd levels rest
  | _ :: rest => isFieldsPart levels rest

def startsTarget (c : Char) : Bool :=
  c = '-' || c = ':' || c = '_' || Text.isAlphanumeric c

/-- Whether a directive can be read. Blanks may stand around it unless it gives a level. -/
def isValid (cs : List Char) : Bool :=
  let body := cs.dropWhile Text.isBlank
  let levels := body.length = cs.length
  match body with
  | [] => false
  | '[' :: rest => isSpanPart levels rest
  | c :: rest =>
    startsTarget c &&
      match rest.dropWhile fun c => c ≠ '=' && c ≠ '[' with
      | [] => true
      | '[' :: rest => isSpanPart levels rest
      | _ :: level => levels && isLevelPart level

end LaneGrid.Directive
