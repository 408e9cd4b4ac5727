/-!
# UTF-8

Decoding of bytes into characters.  `Utf8.next?` reads one well-formed sequence: no overlong form,
no surrogate, nothing past the last code point.  `Utf8.decode` reads a whole text and otherwise
says how many bytes are well formed before the first fault.
-/

namespace SmartScale

namespace Utf8

/-- The six bits of a continuation byte. -/
def tail? (b : UInt8) : Option Nat :=
  if 0x80 ≤ b ∧ b ≤ 0xBF then some (b.toNat - 0x80) else none

/-- The code point of one sequence and the number of its bytes. -/
def sequence? : List UInt8 → Option (Nat × Nat)
  | [] => none
  | a :: rest =>
    let lead := a.toNat
    if lead < 0x80 then some (lead, 1)
    else if 0xC2 ≤ lead ∧ lead ≤ 0xDF then
      match rest with
      | b :: _ => (tail? b).map fun y => ((lead - 0xC0) * 64 + y, 2)
      | _ => none
    else if 0xE0 ≤ lead ∧ lead ≤ 0xEF then
      match rest with
      | b :: c :: _ => do
        let y ← tail? b
        let z ← tail? c
        let point := (lead - 0xE0) * 4096 + y * 64 + z
        if 0x800 ≤ point ∧ ¬ (0xD800 ≤ point ∧ point ≤ 0xDFFF) then some (point, 3) else none
      | _ => none
    else if 0xF0 ≤ lead ∧ lead ≤ 0xF4 then
      match rest with
      | b :: c :: d :: _ => do
        let y ← tail? b
        let z ← tail? c
        let w ← tail? d
        let point := (lead - 0xF0) * 262144 + y * 4096 + z * 64 + w
        if 0x10000 ≤ point ∧ point ≤ 0x10FFFF then some (point, 4) else none
      | _ => none
    else none

/-- Reads bytes from `offset` on; the fuel is the number of bytes left. -/
def decodeFrom : Nat → Nat → List UInt8 → Except Nat (List Char)
  | _, _, [] => .ok []
  | 0, offset, _ :: _ => .error offset
  | fuel + 1, offset, bytes@(_ :: _) =>
    match sequence? bytes with
    | none => .error offset
    | some (point, size) =>
      (decodeFrom fuel (offset + size) (bytes.drop size)).map (Char.ofNat point :: ·)

/-- Reads a whole text, or says how many bytes are well formed before the first fault. -/
def decode (bytes : List UInt8) : Except Nat (List Char) := decodeFrom bytes.length 0 bytes

def encode (text : String) : List UInt8 := text.toUTF8.toList

end Utf8

end SmartScale
