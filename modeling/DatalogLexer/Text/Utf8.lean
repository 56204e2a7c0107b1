import DatalogLexer.Text.Quoted

set_option autoImplicit false

namespace DatalogLexer.Utf8

/-- What is wrong at the first place where bytes stop being UTF-8. -/
inductive Fault where
  /-- The byte can begin no character. -/
  | invalidStart
  /-- A byte that cannot come next in the character follows its good bytes. -/
  | invalidContinuation
  /-- The bytes end inside a character. -/
  | unexpectedEnd
  deriving DecidableEq, Repr

/-- The words that name a fault. -/
def Fault.reason : Fault → String
  | .invalidStart => "invalid start byte"
  | .invalidContinuation => "invalid continuation byte"
  | .unexpectedEnd => "unexpected end of data"

/-- The first fault of a byte sequence: where the bad stretch starts, its bytes, and why. -/
structure DecodeError where
  /-- The offset of the stretch's first byte. -/
  position : Nat
  /-- The bytes of the stretch, never none. -/
  stretch : List UInt8
  /-- Why the stretch is no character. -/
  fault : Fault
  deriving DecidableEq, Repr

/-- The report of a fault: a stretch of one byte is named by its value, a longer one by its first
and last offsets. -/
def DecodeError.message (error : DecodeError) : String :=
  match error.stretch with
  | [byte] =>
    "'utf-8' codec can't decode byte 0x" ++ String.ofList (Hex.digits 2 byte.toNat) ++
      " in position " ++ toString error.position ++ ": " ++ error.fault.reason
  | _ =>
    "'utf-8' codec can't decode bytes in position " ++ toString error.position ++ "-" ++
      toString (error.position + error.stretch.length - 1) ++ ": " ++ error.fault.reason

/-- How a character that takes more than one byte goes on after its first byte. -/
structure Lead where
  /-- How many tail bytes follow. -/
  tails : Nat
  /-- The least value of the first tail byte. -/
  low : Nat
  /-- The greatest value of the first tail byte. -/
  high : Nat
  /-- The bits of the first byte that belong to the character. -/
  bits : Nat

/-- The way on after a first byte of `0x80` or more, or none when it can begin no character. -/
def lead? (byte : Nat) : Option Lead :=
  if 0xC2 ≤ byte ∧ byte ≤ 0xDF then some ⟨1, 0x80, 0xBF, byte % 0x20⟩
  else if byte = 0xE0 then some ⟨2, 0xA0, 0xBF, byte % 0x10⟩
  else if byte = 0xED then some ⟨2, 0x80, 0x9F, byte % 0x10⟩
  else if 0xE1 ≤ byte ∧ byte ≤ 0xEF then some ⟨2, 0x80, 0xBF, byte % 0x10⟩
  else if byte = 0xF0 then some ⟨3, 0x90, 0xBF, byte % 0x08⟩
  else if byte = 0xF4 then some ⟨3, 0x80, 0x8F, byte % 0x08⟩
  else if 0xF1 ≤ byte ∧ byte ≤ 0xF3 then some ⟨3, 0x80, 0xBF, byte % 0x08⟩
  else none

/-- Reads `count` tail bytes, the first within `low`–`high` and the others within `0x80`–`0xBF`:
the value, or how many good tail bytes came before the fault, with the fault. -/
def readTails : Nat → Nat → Nat → Nat → List UInt8 → Except (Nat × Fault) Nat
  | 0, _, _, value, _ => .ok value
  | _ + 1, _, _, _, [] => .error (0, .unexpectedEnd)
  | count + 1, low, high, value, byte :: rest =>
    if low ≤ byte.toNat ∧ byte.toNat ≤ high then
      match readTails count 0x80 0xBF (value * 0x40 + (byte.toNat - 0x80)) rest with
      | .ok value => .ok value
      | .error (good, fault) => .error (good + 1, fault)
    else .error (0, .invalidContinuation)

/-- The characters of a byte sequence from offset `position`, or its first fault, whose stretch is
the first byte and the good tail bytes after it. -/
def decodeFrom (position : Nat) (bytes : List UInt8) : Except DecodeError (List Char) :=
  match bytes with
  | [] => .ok []
  | byte :: rest =>
    if byte.toNat < 0x80 then
      (Char.ofNat byte.toNat :: ·) <$> decodeFrom (position + 1) rest
    else
      match lead? byte.toNat with
      | none => .error ⟨position, [byte], .invalidStart⟩
      | some lead =>
        match readTails lead.tails lead.low lead.high lead.bits rest with
        | .ok value =>
          (Char.ofNat value :: ·) <$> decodeFrom (position + 1 + lead.tails) (rest.drop lead.tails)
        | .error (good, fault) => .error ⟨position, byte :: rest.take good, fault⟩
termination_by bytes.length
decreasing_by
  all_goals simp only [List.length_drop, List.length_cons]
  all_goals omega

/-- The text of a byte sequence, or its first fault. -/
def decode (bytes : List UInt8) : Except DecodeError String :=
  String.ofList <$> decodeFrom 0 bytes

end DatalogLexer.Utf8
