import PanelScript.Json.Typed

/-!
# Readers of octets

A text that comes from outside is a sequence of octets, and need not be encoded well. All that JSON
gives a meaning to is ASCII, so that the readers of texts can be run on octets, each taken as a
character below 256. Only what a string says has to be decoded; a string that is passed over may
hold any octets.

* `Json.octets` takes octets as characters, `Json.utf8` are the octets of a character;
* `Json.readEncoded` reads a string among octets, `Json.readEncodedAs` where one is expected;
* `Json.readOctets` reads a whole sequence of octets.
-/

namespace PanelScript.Json

/-- Octets as characters. -/
def octets (bytes : List UInt8) : List Char := bytes.map fun b => Char.ofNat b.toNat

/-- The octets of a character. -/
def utf8 (c : Char) : List UInt8 := (String.singleton c).toUTF8.toList

/-- The octets up to the closing quote, at most `fuel` of them. An escaped character counts as its
octets. -/
def encodedBody : Nat → Reader (List UInt8)
  | 0, cs => refuse .endInString cs
  | fuel + 1, cs =>
    match cs with
    | [] => refuse .endInString []
    | '"' :: rest => .ok ([], rest)
    | '\\' :: rest => do
      let (c, rest) ← readEscape rest
      let (bytes, rest) ← encodedBody fuel rest
      .ok (utf8 c ++ bytes, rest)
    | c :: rest =>
      if c.toNat < 0x20 then refuse .controlCharacter rest
      else do
        let (bytes, rest) ← encodedBody fuel rest
        .ok (UInt8.ofNat c.toNat :: bytes, rest)

/-- A string among octets, behind its opening quote. -/
def readEncoded : Reader String := fun cs => do
  let (bytes, rest) ← encodedBody (cs.length + 1) cs
  match String.fromUTF8? (ByteArray.mk bytes.toArray) with
  | some s => .ok (s, rest)
  | none => refuse .invalidCodePoint rest

/-- A string among octets. -/
def readEncodedAs (expected : String) : Reader String := fun cs =>
  match skipSpace cs with
  | [] => refuse .endInValue []
  | '"' :: rest => readEncoded rest
  | rest => wrongType expected rest

/-- A whole sequence of octets, read by one reader. -/
def readOctets {α : Type} (read : Reader α) (bytes : List UInt8) : Except Failure α :=
  readWhole read (octets bytes)

end PanelScript.Json
