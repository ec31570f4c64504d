import Aether.Python.Str
import Mathlib.Data.List.Sort
import Mathlib.Data.List.Lex
import Mathlib.Data.Char

/-!
# `json.dumps` on the values the SDK serializes

The SDK hands `json.dumps` three kinds of value: the hash payload of an `aether_sdk`
transaction (a dict of scalars and lists of strings, dumped with `sort_keys=True`) and the
parameter lists of the contract-call encoders (lists of scalars). This module models the
default encoder on exactly that fragment: `ensure_ascii=True`, separators `", "` and `": "`,
`None` as `null`, booleans as `true` and `false`, integers by `int.__repr__`, and strings by
`encode_basestring_ascii` (`_json.c`), which escapes `"`, the backslash, every control character
and every character outside `' '..'~'`, the last through UTF-16 surrogate pairs above `0xFFFF`.

Output is a list of characters: `json.dumps` returns a `str`.
-/

namespace Aether

/-! ## Integers -/

/-- The decimal digit character of a number below ten. -/
def digitChar (digit : Nat) : Char :=
  Char.ofNat (48 + digit)

/-- The decimal digits of a natural number, most significant first. -/
def decimalDigits (n : Nat) : List Char :=
  if n < 10 then [digitChar n] else decimalDigits (n / 10) ++ [digitChar (n % 10)]

/-- `int.__repr__`: a minus sign for negatives, then the decimal digits. -/
def intRepr : Int → List Char
  | .ofNat n => decimalDigits n
  | .negSucc n => '-' :: decimalDigits (n + 1)

/-- A decimal digit character, as the JSON number grammar reads one. -/
def isDigitChar (c : Char) : Bool :=
  48 ≤ c.toNat && c.toNat ≤ 57

/-- The number a run of decimal digits stands for. -/
def digitsValue (digits : List Char) : Nat :=
  digits.foldl (fun value c => 10 * value + (c.toNat - 48)) 0

/-! ## Strings -/

/-- The four lowercase hex digits `\uXXXX` writes for a UTF-16 code unit. -/
def hex4 (unit : Nat) : List Char :=
  [hexDigit (unit / 4096 % 16), hexDigit (unit / 256 % 16), hexDigit (unit / 16 % 16),
    hexDigit (unit % 16)]

/-- `S_CHAR` of `_json.c`: the characters `encode_basestring_ascii` writes as themselves. -/
def isPlainChar (c : Char) : Bool :=
  ' ' ≤ c && c ≤ '~' && c != '\x5c' && c != '\x22'

/-- The `switch` of `ascii_escape_unichar`: the letter of a two-character escape. -/
def shortEscapeLetter? : Char → Option Char
  | '\x5c' => some '\x5c'
  | '\x22' => some '\x22'
  | '\x08' => some 'b'
  | '\x0c' => some 'f'
  | '\n' => some 'n'
  | '\r' => some 'r'
  | '\t' => some 't'
  | _ => none

/-- `ascii_escape_unichar`: a two-character escape where the switch has a letter, else
`\uXXXX`, twice as a UTF-16 surrogate pair above `0xFFFF`. -/
def escapeUnichar (c : Char) : List Char :=
  match shortEscapeLetter? c with
  | some letter => ['\x5c', letter]
  | none =>
      if c.toNat < 0x10000 then '\x5c' :: 'u' :: hex4 c.toNat
      else
        '\x5c' :: 'u' :: hex4 (0xD7C0 + c.toNat / 1024) ++
          '\x5c' :: 'u' :: hex4 (0xDC00 + c.toNat % 1024)

/-- One character as `encode_basestring_ascii` writes it. -/
def escapeChar (c : Char) : List Char :=
  if isPlainChar c then [c] else escapeUnichar c

/-- `encode_basestring_ascii`: a string in double quotes, each character escaped. -/
def quoteString (text : String) : List Char :=
  '\x22' :: text.data.flatMap escapeChar ++ ['\x22']

/-! ## Values -/

/-- The scalar Python values the SDK hands to `json.dumps`. -/
inductive JsonScalar where
  | none
  | bool (value : Bool)
  | int (value : Int)
  | str (value : String)
  deriving DecidableEq, Repr

/-- A value the SDK hands to `json.dumps`: a scalar or a list of scalars. -/
inductive JsonValue where
  | scalar (value : JsonScalar)
  | list (items : List JsonScalar)
  deriving DecidableEq, Repr

/-- The text `json.dumps` writes for a scalar. -/
def dumpsScalar : JsonScalar → List Char
  | .none => "null".data
  | .bool true => "true".data
  | .bool false => "false".data
  | .int value => intRepr value
  | .str value => quoteString value

/-- Items separated by the default item separator `", "`. -/
def joinItems : List (List Char) → List Char
  | [] => []
  | item :: rest => item ++ rest.flatMap (',' :: ' ' :: ·)

/-- A bracketed sequence: `[]` or `{}` when empty, else the items between the brackets. -/
def bracketed (opening closing : Char) (items : List (List Char)) : List Char :=
  opening :: joinItems items ++ [closing]

/-- The text `json.dumps` writes for a value. -/
def dumpsValue : JsonValue → List Char
  | .scalar value => dumpsScalar value
  | .list items => bracketed '[' ']' (items.map dumpsScalar)

/-- One dict entry: the quoted key, the key separator `": "`, the value. -/
def dumpsEntry (entry : String × JsonValue) : List Char :=
  quoteString entry.1 ++ ':' :: ' ' :: dumpsValue entry.2

/-- Keys in the order `sorted` puts them: by code points. -/
def keyLe (left right : String × JsonValue) : Prop :=
  left.1.data ≤ right.1.data

instance : DecidableRel keyLe :=
  fun left right => inferInstanceAs (Decidable (left.1.data ≤ right.1.data))

/-- `json.dumps(dict, sort_keys=True)` on a dict with string keys. -/
def dumpsSorted (entries : List (String × JsonValue)) : List Char :=
  bracketed '\x7b' '\x7d' ((entries.insertionSort keyLe).map dumpsEntry)

/-- `json.dumps(list)`. -/
def dumpsList (items : List JsonScalar) : List Char :=
  dumpsValue (.list items)

end Aether
