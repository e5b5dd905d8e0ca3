/-!
Reading bytes as UTF-8 text.

`decode` either returns the characters or says where the first ill-formed
sequence starts and how many bytes of it are beyond repair. A sequence that the
input merely cuts short has no such number.
-/
namespace MarkupRules.Text

/-- The first place where bytes stop being UTF-8. -/
structure Utf8Defect where
  /-- The number of bytes before the ill-formed sequence. -/
  validUpTo : Nat
  /-- The length of the ill-formed sequence, or `none` if the input ends inside it. -/
  length : Option Nat
  deriving Repr, DecidableEq

/-- The wording of a defect. -/
def Utf8Defect.message (d : Utf8Defect) : String :=
  match d.length with
  | some n => s!"invalid utf-8 sequence of {n} bytes from index {d.validUpTo}"
  | none => s!"incomplete utf-8 byte sequence from index {d.validUpTo}"

/-- Holds of the bytes `10xxxxxx` that continue a sequence. -/
def isContinuation (b : UInt8) : Bool := 0x80 ≤ b && b < 0xC0

/-- The second bytes that may follow `lead` in a sequence of three or four bytes: overlong
forms, surrogates and values above U+10FFFF are excluded here. -/
def secondByteAllowed (lead second : UInt8) : Bool :=
  if lead == 0xE0 then 0xA0 ≤ second && second < 0xC0
  else if lead == 0xED then 0x80 ≤ second && second < 0xA0
  else if lead == 0xF0 then 0x90 ≤ second && second < 0xC0
  else if lead == 0xF4 then 0x80 ≤ second && second < 0x90
  else isContinuation second

private def low6 (b : UInt8) : Nat := b.toNat % 0x40

/-- Decodes `bytes`, of which `offset` bytes came before; `done` holds the characters read so
far, last first. -/
def decodeFrom (offset : Nat) (done : List Char) : List UInt8 → Except Utf8Defect (List Char)
  | [] => .ok done.reverse
  | b :: rest =>
    let invalid (n : Nat) : Except Utf8Defect (List Char) := .error ⟨offset, some n⟩
    let incomplete : Except Utf8Defect (List Char) := .error ⟨offset, none⟩
    if b < 0x80 then
      decodeFrom (offset + 1) (Char.ofNat b.toNat :: done) rest
    else if 0xC2 ≤ b && b < 0xE0 then
      match rest with
      | [] => incomplete
      | b₁ :: rest =>
        if isContinuation b₁ then
          decodeFrom (offset + 2) (Char.ofNat (b.toNat % 0x20 * 0x40 + low6 b₁) :: done) rest
        else invalid 1
    else if 0xE0 ≤ b && b < 0xF0 then
      match rest with
      | [] => incomplete
      | b₁ :: rest =>
        if secondByteAllowed b b₁ then
          match rest with
          | [] => incomplete
          | b₂ :: rest =>
            if isContinuation b₂ then
              let code := b.toNat % 0x10 * 0x1000 + low6 b₁ * 0x40 + low6 b₂
              decodeFrom (offset + 3) (Char.ofNat code :: done) rest
            else invalid 2
        else invalid 1
    else if 0xF0 ≤ b && b < 0xF5 then
      match rest with
      | [] => incomplete
      | b₁ :: rest =>
        if secondByteAllowed b b₁ then
          match rest with
          | [] => incomplete
          | b₂ :: rest =>
            if isContinuation b₂ then
              match rest with
              | [] => incomplete
              | b₃ :: rest =>
                if isContinuation b₃ then
                  let code :=
                    b.toNat % 0x08 * 0x40000 + low6 b₁ * 0x1000 + low6 b₂ * 0x40 + low6 b₃
                  decodeFrom (offset + 4) (Char.ofNat code :: done) rest
                else invalid 3
            else invalid 2
        else invalid 1
    else invalid 1

/-- The text that `bytes` encode. -/
def decode (bytes : List UInt8) : Except Utf8Defect String :=
  (decodeFrom 0 [] bytes).map String.ofList

/-- The number of bytes that `cs` take in UTF-8. -/
def byteLength (cs : List Char) : Nat := cs.foldl (fun n c => n + c.utf8Size) 0

end MarkupRules.Text
