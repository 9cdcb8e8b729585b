import LaneGrid.Text.Word

/-!
JSON documents. Reading checks the grammar and nothing else: numbers may be of any size, strings
may hold surrogates that stand alone, and a name may occur twice in one object. Whoever takes a
document apart decides what of this is allowed.
-/

namespace LaneGrid.Text

inductive Json where
  | null
  | bool (value : Bool)
  /-- A number, with its value if it is written as plain digits. -/
  | number (natural : Option Nat)
  /-- A string, with its text unless some surrogate stands alone. -/
  | string (text : Option String)
  | array (items : List Json)
  | object (members : List (Option String × Json))

namespace Json

def isSpace (c : Char) : Bool :=
  c = ' ' || c = '\n' || c = '\r' || c = '\t'

def skipSpace (cs : List Char) : List Char :=
  cs.dropWhile isSpace

def hexDigit? (c : Char) : Option Nat :=
  if '0' ≤ c && c ≤ '9' then some (c.toNat - '0'.toNat)
  else if 'a' ≤ c && c ≤ 'f' then some (c.toNat - 'a'.toNat + 10)
  else if 'A' ≤ c && c ≤ 'F' then some (c.toNat - 'A'.toNat + 10)
  else none

def hexCode? (digits : List Char) : Option Nat :=
  digits.foldlM (fun n c => (hexDigit? c).map (16 * n + ·)) 0

def escaped? : Char → Option Char
  | '"' => some '"'
  | '\\' => some '\\'
  | '/' => some '/'
  | 'b' => some '\x08'
  | 'f' => some '\x0c'
  | 'n' => some '\n'
  | 'r' => some '\r'
  | 't' => some '\t'
  | _ => none

/-- What a string is written with: characters, and code units given by number. -/
inductive Piece where
  | char (c : Char)
  | unit (code : Nat)
  deriving DecidableEq, Repr

def pieces : List Char → Option (List Piece × List Char)
  | [] => none
  | '"' :: rest => some ([], rest)
  | '\\' :: 'u' :: a :: b :: c :: d :: rest => do
    let code ← hexCode? [a, b, c, d]
    let (ps, rest) ← pieces rest
    return (.unit code :: ps, rest)
  | '\\' :: e :: rest => do
    let c ← escaped? e
    let (ps, rest) ← pieces rest
    return (.char c :: ps, rest)
  | c :: rest =>
    if c < ' ' || c = '\\' then none
    else do
      let (ps, rest) ← pieces rest
      return (.char c :: ps, rest)

def isHighSurrogate (code : Nat) : Bool :=
  0xd800 ≤ code && code < 0xdc00

def isLowSurrogate (code : Nat) : Bool :=
  0xdc00 ≤ code && code < 0xe000

/-- The characters of a string: a high and a low surrogate next to each other are one character,
and no surrogate may stand alone. -/
def joined? : List Piece → Option (List Char)
  | [] => some []
  | .char c :: rest => (joined? rest).map (c :: ·)
  | .unit code :: .unit low :: rest =>
    if isHighSurrogate code then
      if isLowSurrogate low then
        (joined? rest).map (Char.ofNat (0x10000 + (code - 0xd800) * 0x400 + (low - 0xdc00)) :: ·)
      else none
    else if isLowSurrogate code then none
    else (joined? (.unit low :: rest)).map (Char.ofNat code :: ·)
  | .unit code :: rest =>
    if isHighSurrogate code || isLowSurrogate code then none
    else (joined? rest).map (Char.ofNat code :: ·)

def string? (cs : List Char) : Option (Option String × List Char) := do
  let (ps, rest) ← pieces cs
  return ((joined? ps).map String.ofList, rest)

def skipDigits? (cs : List Char) : Option (List Char) :=
  if (cs.head?).any isDigit then some (cs.dropWhile isDigit) else none

def fraction? : List Char → Option (Bool × List Char)
  | '.' :: rest => (skipDigits? rest).map (true, ·)
  | cs => some (false, cs)

def skipSign : List Char → List Char
  | '+' :: rest => rest
  | '-' :: rest => rest
  | cs => cs

def exponent? : List Char → Option (Bool × List Char)
  | 'e' :: rest => (skipDigits? (skipSign rest)).map (true, ·)
  | 'E' :: rest => (skipDigits? (skipSign rest)).map (true, ·)
  | cs => some (false, cs)

/-- Reads a number. Only zero itself starts with a zero. -/
def number? (cs : List Char) : Option (Json × List Char) := do
  let (negative, cs) := match cs with
    | '-' :: rest => (true, rest)
    | cs => (false, cs)
  let whole := cs.takeWhile isDigit
  if whole.isEmpty || (whole.head? = some '0' && 1 < whole.length) then none
  else
    let (hasFraction, rest) ← fraction? (cs.dropWhile isDigit)
    let (hasExponent, rest) ← exponent? rest
    let plain := !negative && !hasFraction && !hasExponent
    return (.number (if plain then some (decimal whole) else none), rest)

mutual

/-- Reads one value. Every step uses up a character, so the number of characters bounds the
depth. -/
def value? : Nat → List Char → Option (Json × List Char)
  | 0, _ => none
  | fuel + 1, cs =>
    match skipSpace cs with
    | 'n' :: 'u' :: 'l' :: 'l' :: rest => some (.null, rest)
    | 't' :: 'r' :: 'u' :: 'e' :: rest => some (.bool true, rest)
    | 'f' :: 'a' :: 'l' :: 's' :: 'e' :: rest => some (.bool false, rest)
    | '"' :: rest => (string? rest).map fun p => (.string p.1, p.2)
    | '[' :: rest =>
      match skipSpace rest with
      | ']' :: rest => some (.array [], rest)
      | rest => items? fuel [] rest
    | '{' :: rest =>
      match skipSpace rest with
      | '}' :: rest => some (.object [], rest)
      | rest => members? fuel [] rest
    | cs => number? cs

/-- Reads the items of an array, which has at least one more. -/
def items? : Nat → List Json → List Char → Option (Json × List Char)
  | 0, _, _ => none
  | fuel + 1, before, cs => do
    let (item, rest) ← value? fuel cs
    match skipSpace rest with
    | ',' :: rest => items? fuel (item :: before) rest
    | ']' :: rest => some (.array (item :: before).reverse, rest)
    | _ => none

def members? : Nat → List (Option String × Json) → List Char → Option (Json × List Char)
  | 0, _, _ => none
  | fuel + 1, before, cs =>
    match skipSpace cs with
    | '"' :: rest => do
      let (name, rest) ← string? rest
      match skipSpace rest with
      | ':' :: rest => do
        let (item, rest) ← value? fuel rest
        match skipSpace rest with
        | ',' :: rest => members? fuel ((name, item) :: before) rest
        | '}' :: rest => some (.object ((name, item) :: before).reverse, rest)
        | _ => none
      | _ => none
    | _ => none

end

def read? (s : String) : Option Json :=
  match value? (2 * s.length + 2) s.toList with
  | some (j, rest) => if (skipSpace rest).isEmpty then some j else none
  | none => none

def writtenChar (c : Char) : String :=
  if c = '"' then "\\\""
  else if c = '\\' then "\\\\"
  else if c = '\x08' then "\\b"
  else if c = '\x0c' then "\\f"
  else if c = '\n' then "\\n"
  else if c = '\r' then "\\r"
  else if c = '\t' then "\\t"
  else if c < ' ' then
    let digits := Nat.toDigits 16 c.toNat
    "\\u" ++ String.ofList (List.replicate (4 - digits.length) '0' ++ digits)
  else c.toString

def written (s : String) : String :=
  "\"" ++ String.join (s.toList.map writtenChar) ++ "\""

end Json

end LaneGrid.Text
