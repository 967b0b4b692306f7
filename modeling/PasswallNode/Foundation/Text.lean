import Mathlib.Data.List.Basic

/-! Texts as the Go library takes them apart. A text is valid UTF-8 here, so its characters
are its runes. -/

namespace PasswallNode.Foundation

/-- `unicode.IsSpace`. -/
def isSpace (c : Char) : Bool :=
  c.toNat ∈ [9, 10, 11, 12, 13, 32, 0x85, 0xA0, 0x1680, 0x2028, 0x2029, 0x202f, 0x205f, 0x3000] ||
    (decide (0x2000 ≤ c.toNat) && decide (c.toNat ≤ 0x200a))

/-- `strings.TrimSpace(text) == ""`. -/
def isBlank (text : String) : Bool := text.toList.all isSpace

/-- `strings.TrimSpace`. -/
def trimSpace (text : String) : String :=
  String.ofList ((text.toList.dropWhile isSpace).reverse.dropWhile isSpace).reverse

def checksum (payload : List UInt8) : String :=
  "#" ++ (payload.foldl (fun (sum : Nat) byte => (257 * sum + byte.toNat) % 0xfffffffb) 1).repr

/-- Drops characters, the last one first, until at most `limit` bytes are left. -/
def dropToBytes (limit : Nat) : List Char → List Char
  | [] => []
  | last :: before =>
    if ((last :: before).map Char.utf8Size).sum > limit then dropToBytes limit before
    else last :: before

/-- `strings.Cut` at one character: what stands before it, and what stands after it if it
occurs. -/
def cut (separator : Char) : List Char → List Char × Option (List Char)
  | [] => ([], none)
  | c :: rest =>
    if c = separator then ([], some rest)
    else ((c :: (cut separator rest).1), (cut separator rest).2)

/-- `strings.Split` at one character. -/
def split (separator : Char) : List Char → List (List Char)
  | [] => [[]]
  | c :: rest =>
    if c = separator then [] :: split separator rest
    else
      match split separator rest with
      | [] => [[c]]
      | part :: parts => (c :: part) :: parts

/-- `strings.HasPrefix`. -/
def startsWith (start text : String) : Bool := start.toList.isPrefixOf text.toList

/-- What stands before the last occurrence of a character and what stands after it. -/
def cutLast (separator : Char) (text : String) : Option (String × String) :=
  match cut separator text.toList.reverse with
  | (_, none) => none
  | (after, some before) => some (String.ofList before.reverse, String.ofList after.reverse)

/-- `strings.Trim` with a set of characters. -/
def trimChars (chars : List Char) (text : String) : String :=
  String.ofList ((text.toList.dropWhile (· ∈ chars)).reverse.dropWhile (· ∈ chars)).reverse

end PasswallNode.Foundation
