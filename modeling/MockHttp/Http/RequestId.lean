/-!
# Request identifiers

An identifier is a number of 128 bits, written as 26 characters of five bits each in an alphabet
without the letters I, L, O and U. Letters are read in either case, and the two bits that 26
characters have too many are dropped.
-/

namespace MockHttp.Http

structure RequestId where
  value : Fin (Nat.pow 2 128)
  deriving DecidableEq, Repr

namespace RequestId

/-- The characters by the five bits that they stand for. -/
def alphabet : List Char := "0123456789ABCDEFGHJKMNPQRSTVWXYZ".toList

def length : Nat := 26

inductive DecodeError where
  /-- It is not as long as identifiers are, counted in bytes. -/
  | invalidLength
  /-- It holds a character that is not in the alphabet. -/
  | invalidChar
  deriving DecidableEq, Repr

/-- The identifier of a number, of which the lowest 128 bits count. -/
def ofNat (n : Nat) : RequestId := ⟨Fin.ofNat (Nat.pow 2 128) n⟩

/-- The five bits of a character. -/
def digit? (c : Char) : Option Nat :=
  alphabet.idxOf? c.toUpper

def parse (text : String) : Except DecodeError RequestId :=
  if text.utf8ByteSize ≠ length then .error .invalidLength
  else match text.toList.foldlM (fun n c => (digit? c).map (n * 32 + ·)) 0 with
    | some n => .ok (ofNat n)
    | none => .error .invalidChar

/-- The last `count` digits of a number to base 32, most significant first. -/
def digits : Nat → Nat → List Char
  | 0, _ => []
  | count + 1, n => digits count (n / 32) ++ [alphabet.getD (n % 32) '0']

def toString (id : RequestId) : String :=
  String.ofList (digits length id.value)

/-- The identifier that a header holds, or the given one if it holds none. -/
def ofHeader (header : Option String) (fresh : RequestId) : RequestId :=
  match header.map parse with
  | some (.ok id) => id
  | _ => fresh

end RequestId

end MockHttp.Http
