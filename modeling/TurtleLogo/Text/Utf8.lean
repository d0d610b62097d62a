/-
# `TurtleLogo.Text.Utf8` — texts out of bytes

A character takes one to four bytes.  A sequence that is no character is
reported by the place of its first byte, by how many of its bytes had been
accepted, and by the reason: a byte that starts nothing, a byte that does not
continue what was started, or the end of the data.
-/
namespace TurtleLogo.Text

/-- Why bytes are no text. -/
inductive Utf8Reason where
  | badStart
  | badContinuation
  | endOfData
deriving DecidableEq, Repr

/-- The bytes from `position` on, `count` of them, are no text; `byte` is the first. -/
structure Utf8Error where
  reason : Utf8Reason
  position : Nat
  count : Nat
  byte : UInt8
deriving DecidableEq, Repr

/-- Bytes that continue a character. -/
def isContinuation (b : UInt8) : Bool :=
  0x80 ≤ b && b < 0xc0

/-- Whether `second` may follow `lead`: it continues, and the pair starts no overlong form, no
surrogate and nothing beyond the last code point. -/
def maySecond (lead second : UInt8) : Bool :=
  isContinuation second &&
    !(lead == 0xe0 && second < 0xa0) && !(lead == 0xed && 0xa0 ≤ second) &&
    !(lead == 0xf0 && second < 0x90) && !(lead == 0xf4 && 0x90 ≤ second)

/-- How many bytes the character that starts with `lead` has. -/
def sequenceLength (lead : UInt8) : Option Nat :=
  if lead < 0x80 then some 1
  else if lead < 0xc2 then none
  else if lead < 0xe0 then some 2
  else if lead < 0xf0 then some 3
  else if lead < 0xf5 then some 4
  else none

/-- The bits that a byte contributes to its character. -/
def payload (b : UInt8) : Nat :=
  b.toNat % 64

/-- Reads the bytes that continue a character; `missing` are still to come, `taken` were read. -/
def continueChar : Nat → Nat → Nat → List UInt8 → Except (Utf8Reason × Nat) Nat
  | 0, _, code, _ => .ok code
  | _ + 1, taken, _, [] => .error (.endOfData, taken)
  | missing + 1, taken, code, b :: bs =>
    if isContinuation b then continueChar missing (taken + 1) (code * 64 + payload b) bs
    else .error (.badContinuation, taken)

/-- The code point that starts with `lead`, and how many bytes of `rest` belong to it. -/
def firstCode (lead : UInt8) (rest : List UInt8) : Except (Utf8Reason × Nat) (Nat × Nat) :=
  match sequenceLength lead with
  | none => .error (.badStart, 1)
  | some 1 => .ok (lead.toNat, 0)
  | some n =>
    match rest with
    | second :: _ =>
      if maySecond lead second then
        let high := lead.toNat % Nat.pow 2 (7 - n)
        (continueChar (n - 1) 1 high rest).map fun code => (code, n - 1)
      else .error (.badContinuation, 1)
    | [] => .error (.endOfData, 1)

def decodeFrom (position : Nat) (bytes : List UInt8) : Except Utf8Error (List Char) :=
  match bytes with
  | [] => .ok []
  | lead :: rest =>
    match firstCode lead rest with
    | .error (reason, count) => .error ⟨reason, position, count, lead⟩
    | .ok (code, extra) =>
      match decodeFrom (position + 1 + extra) (rest.drop extra) with
      | .ok cs => .ok (Char.ofNat code :: cs)
      | .error e => .error e
termination_by bytes.length
decreasing_by rw [List.length_drop, List.length_cons]; omega

/-- The text that the bytes spell. -/
def decodeUtf8 (bytes : List UInt8) : Except Utf8Error String :=
  (decodeFrom 0 bytes).map String.ofList

end TurtleLogo.Text
