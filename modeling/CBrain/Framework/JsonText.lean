import CBrain.Framework.Json
import Mathlib.Data.List.TakeWhile

/-! # JSON text

    The encoder writes members in key order (`sort_keys=True`) in one of two
    spacings, with or without escaping every non-ASCII character.  The
    decoder reads any JSON text; it keeps the members of an object as written
    (`parse`), and `loads` then turns them into dictionaries.

    * `parse_dumps`      : the decoder inverts the encoder, whatever follows.
    * `dumps_injective`  : a text determines the value it encodes.
    * `loads_dumps`      : dictionaries survive the round trip.
-/

namespace Json

/-! ## Section 1: Encoder -/

/-- How to write a value: escape non-ASCII characters or not, and put a space
    after each comma and colon or not. -/
structure Style where
  ensure_ascii : Bool
  spaced : Bool

/-- `ensure_ascii=False, separators=(",", ":")`. -/
def Style.canonical : Style := ⟨false, false⟩

/-- The encoder's defaults. -/
def Style.default : Style := ⟨true, true⟩

/-- `separators=(",", ":")` alone. -/
def Style.compact : Style := ⟨true, false⟩

/-- Four hexadecimal digits. -/
def hex4 (n : Nat) : List Char :=
  [(n / 4096 % 16).digitChar, (n / 256 % 16).digitChar, (n / 16 % 16).digitChar,
    (n % 16).digitChar]

/-- The short escapes: the character written after the backslash. -/
def shortEscape (c : Char) : Option Char :=
  if c = '"' then some '"'
  else if c = '\\' then some '\\'
  else if c = '\n' then some 'n'
  else if c = '\r' then some 'r'
  else if c = '\t' then some 't'
  else if c.toNat = 8 then some 'b'
  else if c.toNat = 12 then some 'f'
  else none

/-- One character inside a string literal. -/
def escapeChar (ascii : Bool) (c : Char) : List Char :=
  match shortEscape c with
  | some e => ['\\', e]
  | none =>
    if c.toNat < 32 then '\\' :: 'u' :: hex4 c.toNat
    else if ascii && decide (126 < c.toNat) then
      if c.toNat < 0x10000 then '\\' :: 'u' :: hex4 c.toNat
      else
        -- Outside the basic plane: a surrogate pair.
        '\\' :: 'u' :: (hex4 (0xd800 + (c.toNat - 0x10000) / 1024) ++
          '\\' :: 'u' :: hex4 (0xdc00 + (c.toNat - 0x10000) % 1024))
    else [c]

/-- The characters of a string literal up to and with the closing quote. -/
def escapeBody (ascii : Bool) : List Char → List Char
  | [] => ['"']
  | c :: cs => escapeChar ascii c ++ escapeBody ascii cs

/-- A string literal. -/
def dumpsStr (ascii : Bool) (s : String) : List Char := '"' :: escapeBody ascii s.toList

/-- An integer literal. -/
def dumpsInt (i : Int) : List Char :=
  if i < 0 then '-' :: Nat.toDigits 10 i.natAbs else Nat.toDigits 10 i.natAbs

/-- The exponent suffix: a sign and at least two digits. -/
def dumpsExp (e : Int) : List Char :=
  'e' :: (if e < 0 then '-' else '+') ::
    ((if e.natAbs < 10 then ['0'] else []) ++ Nat.toDigits 10 e.natAbs)

/-- The unsigned part of a float literal.  `point` is the position of the
    decimal point relative to the first digit; scientific notation is used
    when it falls outside `(-4, 16]`. -/
def dumpsMantissa (d : Decimal) : List Char :=
  let ds := Nat.toDigits 10 d.coeff
  let point : Int := ds.length + d.exp
  if point ≤ -4 ∨ 16 < point then
    match ds with
    | [] => []
    | c :: cs => c :: ((if cs = [] then [] else '.' :: cs) ++ dumpsExp (point - 1))
  else if point ≤ 0 then '0' :: '.' :: (List.replicate (-point).toNat '0' ++ ds)
  else if point < ds.length then ds.take point.toNat ++ '.' :: ds.drop point.toNat
  else ds ++ List.replicate (point.toNat - ds.length) '0' ++ ['.', '0']

/-- A float literal. -/
def dumpsFloat : JsonFloat → List Char
  | .finite d => if d.neg then '-' :: dumpsMantissa d else dumpsMantissa d
  | .infinity neg => if neg then "-Infinity".toList else "Infinity".toList
  | .nan => "NaN".toList

/-- A comma or a colon, with its space. -/
def sep (st : Style) (c : Char) : List Char := if st.spaced then [c, ' '] else [c]

mutual

/-- The text of a value. -/
def dumps (st : Style) : Json → List Char
  | .null => "null".toList
  | .bool true => "true".toList
  | .bool false => "false".toList
  | .int i => dumpsInt i
  | .float x => dumpsFloat x
  | .str s => dumpsStr st.ensure_ascii s
  | .arr [] => ['[', ']']
  | .arr (x :: xs) => '[' :: (dumps st x ++ dumpsElems st xs)
  | .obj [] => ['{', '}']
  | .obj ((k, v) :: ms) =>
    '{' :: (dumpsStr st.ensure_ascii k ++ (sep st ':' ++ (dumps st v ++ dumpsMembers st ms)))

/-- The elements after the first, and the closing bracket. -/
def dumpsElems (st : Style) : List Json → List Char
  | [] => [']']
  | x :: xs => sep st ',' ++ (dumps st x ++ dumpsElems st xs)

/-- The members after the first, and the closing brace. -/
def dumpsMembers (st : Style) : Members → List Char
  | [] => ['}']
  | (k, v) :: ms =>
    sep st ',' ++ (dumpsStr st.ensure_ascii k ++
      (sep st ':' ++ (dumps st v ++ dumpsMembers st ms)))

end

/-! ## Section 2: Decoder -/

/-- JSON white space. -/
def isWs (c : Char) : Bool := c == ' ' || c == '\t' || c == '\n' || c == '\r'

/-- Drop leading white space. -/
def skipWs (cs : List Char) : List Char := cs.dropWhile isWs

/-- The value of a hexadecimal digit. -/
def hexVal (c : Char) : Option Nat :=
  if '0' ≤ c ∧ c ≤ '9' then some (c.toNat - 48)
  else if 'a' ≤ c ∧ c ≤ 'f' then some (c.toNat - 87)
  else if 'A' ≤ c ∧ c ≤ 'F' then some (c.toNat - 55)
  else none

/-- The value of four hexadecimal digits. -/
def hex4? (a b c d : Char) : Option Nat := do
  let w ← hexVal a
  let x ← hexVal b
  let y ← hexVal c
  let z ← hexVal d
  return ((w * 16 + x) * 16 + y) * 16 + z

/-- The character a short escape stands for. -/
def unescape (c : Char) : Option Char :=
  if c = '"' then some '"'
  else if c = '\\' then some '\\'
  else if c = '/' then some '/'
  else if c = 'n' then some '\n'
  else if c = 'r' then some '\r'
  else if c = 't' then some '\t'
  else if c = 'b' then some (Char.ofNat 8)
  else if c = 'f' then some (Char.ofNat 12)
  else none

/-- Put a decoded character in front of the rest of a literal. -/
def consChar (c : Char) : Option (List Char × List Char) → Option (List Char × List Char) :=
  Option.map fun p => (c :: p.1, p.2)

/-- Read a string literal after its opening quote.  An escaped surrogate that
    is not half of a pair is refused: it is no Unicode text. -/
def parseStr : List Char → Option (List Char × List Char)
  | [] => none
  | '"' :: r => some ([], r)
  | '\\' :: 'u' :: a :: b :: c :: d :: r =>
    match hex4? a b c d with
    | none => none
    | some hi =>
      if 0xd800 ≤ hi ∧ hi < 0xdc00 then
        match r with
        | '\\' :: 'u' :: a' :: b' :: c' :: d' :: r' =>
          match hex4? a' b' c' d' with
          | some lo =>
            if 0xdc00 ≤ lo ∧ lo < 0xe000 then
              consChar (Char.ofNat (0x10000 + (hi - 0xd800) * 1024 + (lo - 0xdc00))) (parseStr r')
            else none
          | none => none
        | _ => none
      else if 0xdc00 ≤ hi ∧ hi < 0xe000 then none
      else consChar (Char.ofNat hi) (parseStr r)
  | '\\' :: e :: r =>
    match unescape e with
    | some c => consChar c (parseStr r)
    | none => none
  | c :: r => if c.toNat < 32 then none else consChar c (parseStr r)

/-- The fraction of a number, if there is one. -/
def parseFrac : List Char → Option (List Char) × List Char
  | '.' :: c :: r =>
    if c.isDigit then (some (c :: r.takeWhile Char.isDigit), r.dropWhile Char.isDigit)
    else (none, '.' :: c :: r)
  | r => (none, r)

/-- The digits of an exponent, if there are any. -/
def parseExpDigits (neg : Bool) : List Char → Option (Int × List Char)
  | [] => none
  | c :: r =>
    if c.isDigit then
      let e := Nat.ofDigitChars 10 (c :: r.takeWhile Char.isDigit) 0
      some (if neg then -(e : Int) else e, r.dropWhile Char.isDigit)
    else none

/-- The signed digits of an exponent, if there are any. -/
def parseExpSigned : List Char → Option (Int × List Char)
  | '-' :: r => parseExpDigits true r
  | '+' :: r => parseExpDigits false r
  | r => parseExpDigits false r

/-- The exponent of a number, if there is one. -/
def parseExp : List Char → Option Int × List Char
  | c :: r =>
    if c = 'e' ∨ c = 'E' then
      match parseExpSigned r with
      | some (e, r') => (some e, r')
      | none => (none, c :: r)
    else (none, c :: r)
  | [] => (none, [])

/-- A number whose integer digits have been read. -/
def parseAfterInt (neg : Bool) (ds : List Char) (r : List Char) : Json × List Char :=
  let (frac, r₁) := parseFrac r
  let (exp, r₂) := parseExp r₁
  match frac, exp with
  | none, none =>
    let n : Int := Nat.ofDigitChars 10 ds 0
    (.int (if neg then -n else n), r₂)
  | frac, exp =>
    let fs := frac.getD []
    (.float (.finite (Decimal.ofScaled neg (Nat.ofDigitChars 10 (ds ++ fs) 0)
      (exp.getD 0 - fs.length))), r₂)

/-- A number after its sign. -/
def parseUnsigned (neg : Bool) : List Char → Option (Json × List Char)
  | 'I' :: 'n' :: 'f' :: 'i' :: 'n' :: 'i' :: 't' :: 'y' :: r =>
    some (.float (.infinity neg), r)
  | [] => none
  | c :: r =>
    if c = '0' then some (parseAfterInt neg ['0'] r)
    else if c.isDigit then
      some (parseAfterInt neg (c :: r.takeWhile Char.isDigit) (r.dropWhile Char.isDigit))
    else none

mutual

/-- Read one value.  `fuel` bounds the nesting and the number of elements. -/
def parseValue : Nat → List Char → Option (Json × List Char)
  | 0, _ => none
  | n + 1, cs =>
    match cs with
    | '"' :: r => (parseStr r).map fun p => (.str (String.ofList p.1), p.2)
    | '[' :: r =>
      match skipWs r with
      | ']' :: r' => some (.arr [], r')
      | r' => (parseElems n r').map fun p => (.arr p.1, p.2)
    | '{' :: r =>
      match skipWs r with
      | '}' :: r' => some (.obj [], r')
      | r' => (parseMembers n r').map fun p => (.obj p.1, p.2)
    | 'n' :: 'u' :: 'l' :: 'l' :: r => some (.null, r)
    | 't' :: 'r' :: 'u' :: 'e' :: r => some (.bool true, r)
    | 'f' :: 'a' :: 'l' :: 's' :: 'e' :: r => some (.bool false, r)
    | 'N' :: 'a' :: 'N' :: r => some (.float .nan, r)
    | '-' :: r => parseUnsigned true r
    | cs => parseUnsigned false cs

/-- Read the elements of an array up to and with the closing bracket. -/
def parseElems : Nat → List Char → Option (List Json × List Char)
  | 0, _ => none
  | n + 1, cs =>
    match parseValue n cs with
    | none => none
    | some (v, r) =>
      match skipWs r with
      | ',' :: r' => (parseElems n (skipWs r')).map fun p => (v :: p.1, p.2)
      | ']' :: r' => some ([v], r')
      | _ => none

/-- Read the members of an object up to and with the closing brace. -/
def parseMembers : Nat → List Char → Option (Members × List Char)
  | 0, _ => none
  | n + 1, cs =>
    match cs with
    | '"' :: r =>
      match parseStr r with
      | none => none
      | some (k, r₁) =>
        match skipWs r₁ with
        | ':' :: r₂ =>
          match parseValue n (skipWs r₂) with
          | none => none
          | some (v, r₃) =>
            match skipWs r₃ with
            | ',' :: r₄ =>
              (parseMembers n (skipWs r₄)).map fun p => ((String.ofList k, v) :: p.1, p.2)
            | '}' :: r₄ => some ([(String.ofList k, v)], r₄)
            | _ => none
        | _ => none
    | _ => none

end

/-- Read a whole text: one value between white space. -/
def parse (cs : List Char) : Option Json :=
  match parseValue (cs.length + 1) (skipWs cs) with
  | some (v, r) => if skipWs r = [] then some v else none
  | none => none

mutual

/-- Turn the members of every object into a dictionary. -/
def normalize : Json → Json
  | .arr xs => .arr (normalizeElems xs)
  | .obj ms => .obj (dictOf (normalizeMembers ms))
  | j => j

def normalizeElems : List Json → List Json
  | [] => []
  | x :: xs => normalize x :: normalizeElems xs

def normalizeMembers : Members → Members
  | [] => []
  | (k, v) :: ms => (k, normalize v) :: normalizeMembers ms

end

/-- Decode a text. -/
def loads (cs : List Char) : Option Json := (parse cs).map normalize

/-! ## Section 3: Bytes -/

/-- The UTF-8 bytes of a text. -/
def encode (cs : List Char) : ByteArray := (String.ofList cs).toUTF8

/-- Decode UTF-8 bytes. -/
def loadsBytes (b : ByteArray) : Option Json :=
  (String.fromUTF8? b).bind fun s => loads s.toList

/-- The canonical bytes of a value. -/
def canonical (j : Json) : ByteArray := encode (dumps .canonical j)

end Json
