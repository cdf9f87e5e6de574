import RootedStore.Text.Bytes

/-!
# Percent-encoding

Characters outside ASCII, control characters, and the characters of a set that depends on the part of
the URL are written as their UTF-8 bytes, each as a percent sign and two digits. In forms a space is a
plus sign.
-/

namespace RootedStore.Url

/-- Control characters are encoded everywhere. -/
def isControl (c : Char) : Bool := c.toNat < 0x20 || c.toNat = 0x7F

def inFragmentSet (c : Char) : Bool := isControl c || [' ', '"', '<', '>', '\x60'].contains c

def inPathSet (c : Char) : Bool := inFragmentSet c || ['#', '?', '{', '}'].contains c

/-- The set for one segment of a path that stands by itself. -/
def inSegmentSet (c : Char) : Bool := inPathSet c || ['/', '%', '\\'].contains c

def inUserSet (c : Char) : Bool :=
  inPathSet c || ['/', ':', ';', '=', '@', '[', '\\', ']', '^', '|'].contains c

def inQuerySet (c : Char) : Bool := isControl c || [' ', '"', '#', '<', '>', '\''].contains c

def percentByte (b : UInt8) : List Char := '%' :: Text.hexByte true b

def encodeChar (inSet : Char → Bool) (c : Char) : List Char :=
  if c.toNat < 0x80 && !inSet c then [c] else (String.utf8EncodeChar c).flatMap percentByte

def percentEncode (inSet : Char → Bool) (s : List Char) : List Char := s.flatMap (encodeChar inSet)

/-- The bytes of a text, those of percent signs with two digits put in their place. -/
def percentDecode : Bytes → Bytes
  | b :: h :: l :: rest =>
    if b = 0x25 then
      match Text.digitValue? 16 (Char.ofNat h.toNat), Text.digitValue? 16 (Char.ofNat l.toNat) with
      | some x, some y => UInt8.ofNat (16 * x + y) :: percentDecode rest
      | _, _ => b :: percentDecode (h :: l :: rest)
    else b :: percentDecode (h :: l :: rest)
  | s => s

def isFormByte (b : UInt8) : Bool :=
  (Char.ofNat b.toNat).isAlphanum || b = 0x2A || b = 0x2D || b = 0x2E || b = 0x5F

def formEncode (s : String) : List Char :=
  (Text.encode s).flatMap fun b =>
    if isFormByte b then [Char.ofNat b.toNat]
    else if b = 0x20 then ['+']
    else percentByte b

def formPair (p : String × String) : List Char := formEncode p.1 ++ '=' :: formEncode p.2

/-- A form with pairs added at its end. -/
def formAppend (query : List Char) (pairs : List (String × String)) : List Char :=
  pairs.foldl (fun q p => (if q.isEmpty then [] else q ++ ['&']) ++ formPair p) query

end RootedStore.Url
