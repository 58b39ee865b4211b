import Mathlib.Data.String.Basic

/-! The functions of the Rust standard library on text that the source calls,
computed on the characters of a string. -/
namespace EdgeBootstrap.Rust

/-- `char::is_whitespace`: the Unicode `White_Space` property. -/
def isWhitespace (c : Char) : Bool :=
  (9 ≤ c.toNat && c.toNat ≤ 13) || (0x2000 ≤ c.toNat && c.toNat ≤ 0x200a) ||
    [0x20, 0x85, 0xa0, 0x1680, 0x2028, 0x2029, 0x202f, 0x205f, 0x3000].contains c.toNat

/-- `str::trim`. -/
def trim (s : String) : String :=
  .ofList ((s.toList.dropWhile isWhitespace).reverse.dropWhile isWhitespace).reverse

/-- `str::trim_end_matches` of a character. -/
def trimEndMatches (c : Char) (s : String) : String :=
  .ofList (s.toList.reverse.dropWhile (· = c)).reverse

/-- `str::split` at a character. -/
def splitChars (sep : Char) : List Char → List (List Char)
  | [] => [[]]
  | c :: rest =>
    match splitChars sep rest with
    | [] => [[]]
    | part :: parts => if c = sep then [] :: part :: parts else (c :: part) :: parts

def split (sep : Char) (s : String) : List String := (splitChars sep s.toList).map .ofList

private def digits (acc : Nat) : List Char → Option Nat
  | [] => some acc
  | c :: rest =>
    if '0' ≤ c ∧ c ≤ '9' then digits (acc * 10 + (c.toNat - '0'.toNat)) rest else none

/-- `str::parse::<u64>`: an optional plus sign, then at least one digit. -/
def parseU64 (s : String) : Option UInt64 :=
  let body := match s.toList with
    | '+' :: rest => rest
    | all => all
  if body.isEmpty then none
  else match digits 0 body with
    | some n => if n < UInt64.size then some (.ofNat n) else none
    | none => none

/-- `Path::join` on Unix: an absolute right side replaces the left. -/
def joinPath (dir name : String) : String :=
  if name.toList.head? = some '/' then name
  else if dir = "" ∨ dir.toList.getLast? = some '/' then dir ++ name
  else dir ++ "/" ++ name

end EdgeBootstrap.Rust
