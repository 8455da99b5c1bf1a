import CilTrace.Text.Hex

/-!
Strict UTF-8.

Every code point has one encoding: the shortest, at most four bytes long, and none for surrogates.
A failure tells which bytes were read as the start of a character and why they are none.
-/

namespace CilTrace

/-- Why bytes are not the start of a character. -/
inductive Utf8Fault where
  | start
  | continuation
  | truncated
deriving DecidableEq, Repr

/-- A failure at the bytes from `first` up to but not including `stop`; `lead` is the first. -/
structure Utf8Error where
  first : Nat
  stop : Nat
  lead : UInt8
  fault : Utf8Fault
deriving DecidableEq, Repr

namespace Utf8Fault

def reason : Utf8Fault → String
  | start => "invalid start byte"
  | continuation => "invalid continuation byte"
  | truncated => "unexpected end of data"

end Utf8Fault

namespace Utf8Error

def message (error : Utf8Error) : String :=
  let place :=
    if error.stop = error.first + 1 then
      "byte 0x" ++ Hex.lower 2 error.lead.toNat ++ " in position " ++ error.first.repr
    else "bytes in position " ++ error.first.repr ++ "-" ++ (error.stop - 1).repr
  "'utf-8' codec can't decode " ++ place ++ ": " ++ error.fault.reason

end Utf8Error

namespace Utf8

/-- A byte that continues a character. -/
def isContinuation (byte : UInt8) : Bool :=
  0x80 ≤ byte && byte < 0xC0

/-- A continuation byte that may follow `lead`: overlong forms, surrogates and code points beyond
the last one are excluded here. -/
def mayFollow (lead second : UInt8) : Bool :=
  isContinuation second &&
    (if lead = 0xE0 then 0xA0 ≤ second
    else if lead = 0xED then second < 0xA0
    else if lead = 0xF0 then 0x90 ≤ second
    else if lead = 0xF4 then second < 0x90
    else true)

/-- The six payload bits of a continuation byte. -/
def payload (byte : UInt8) : Nat :=
  byte.toNat % 0x40

/-- Decodes bytes of which the first stands at `position`. -/
def decodeFrom (position : Nat) : List UInt8 → Except Utf8Error (List Char)
  | [] => .ok []
  | lead :: rest =>
      let fail (length : Nat) (fault : Utf8Fault) : Except Utf8Error (List Char) :=
        .error ⟨position, position + length, lead, fault⟩
      let emit (code : Nat) (tail : Except Utf8Error (List Char)) :=
        tail.map (Char.ofNat code :: ·)
      if lead < 0x80 then emit lead.toNat (decodeFrom (position + 1) rest)
      else if lead < 0xC2 || 0xF5 ≤ lead then fail 1 .start
      else match rest with
        | [] => fail 1 .truncated
        | second :: rest =>
            if !mayFollow lead second then fail 1 .continuation
            else if lead < 0xE0 then
              emit (lead.toNat % 0x20 * 0x40 + payload second) (decodeFrom (position + 2) rest)
            else match rest with
              | [] => fail 2 .truncated
              | third :: rest =>
                  if !isContinuation third then fail 2 .continuation
                  else if lead < 0xF0 then
                    emit ((lead.toNat % 0x10 * 0x40 + payload second) * 0x40 + payload third)
                      (decodeFrom (position + 3) rest)
                  else match rest with
                    | [] => fail 3 .truncated
                    | fourth :: rest =>
                        if !isContinuation fourth then fail 3 .continuation
                        else
                          emit
                            (((lead.toNat % 0x08 * 0x40 + payload second) * 0x40 + payload third)
                              * 0x40 + payload fourth)
                            (decodeFrom (position + 4) rest)

/-- The characters that bytes encode. -/
def decode (bytes : List UInt8) : Except Utf8Error (List Char) :=
  decodeFrom 0 bytes

example : decode [0x61, 0xC3, 0xA9] = .ok ['a', Char.ofNat 0xE9] := rfl
example : decode [0xE2, 0x82] = .error ⟨0, 2, 0xE2, .truncated⟩ := rfl

end Utf8

end CilTrace
