import CompilerCalls.Text.Hex

/-!
# UTF-8

Octets are read as UTF-8 in its strict form: no character is written in more
octets than it needs, and surrogates are no characters.  A fault names the
octets of the first sequence which cannot be read.
-/

namespace CompilerCalls.Text

inductive Utf8Cause where
  | invalidStart
  | invalidContinuation
  | unexpectedEnd
  deriving DecidableEq, Repr

def Utf8Cause.text : Utf8Cause → String
  | .invalidStart => "invalid start byte"
  | .invalidContinuation => "invalid continuation byte"
  | .unexpectedEnd => "unexpected end of data"

/-- The first sequence of octets which cannot be read. -/
structure Utf8Fault where
  lead : UInt8
  position : Nat
  /-- How many octets belong to the faulty sequence. -/
  length : Nat
  cause : Utf8Cause
  deriving DecidableEq, Repr

def Utf8Fault.message (fault : Utf8Fault) : String :=
  let place :=
    if fault.length ≤ 1 then
      "byte 0x" ++ String.ofList (hexDigits 2 fault.lead.toNat) ++
        " in position " ++ fault.position.repr
    else
      "bytes in position " ++ fault.position.repr ++ "-" ++
        (fault.position + fault.length - 1).repr
  "'utf-8' codec can't decode " ++ place ++ ": " ++ fault.cause.text

/-- A sequence of which some octets have still to come. -/
structure OpenSequence where
  lead : UInt8
  position : Nat
  length : Nat
  missing : Nat
  value : Nat
  /-- The least and the greatest next octet. -/
  low : UInt8
  high : UInt8

/-- The sequence which starts with an octet.  The bounds of the second octet
keep out overlong sequences, surrogates, and numbers which are too great. -/
def OpenSequence.ofLead? (position : Nat) (lead : UInt8) :
    Option OpenSequence :=
  let sequence (missing bits : Nat) (low high : UInt8) : OpenSequence :=
    ⟨lead, position, 1, missing, bits, low, high⟩
  if lead < 0xc2 then none
  else if lead < 0xe0 then some (sequence 1 (lead.toNat - 0xc0) 0x80 0xbf)
  else if lead < 0xf0 then
    some (sequence 2 (lead.toNat - 0xe0)
      (if lead = 0xe0 then 0xa0 else 0x80) (if lead = 0xed then 0x9f else 0xbf))
  else if lead < 0xf5 then
    some (sequence 3 (lead.toNat - 0xf0)
      (if lead = 0xf0 then 0x90 else 0x80) (if lead = 0xf4 then 0x8f else 0xbf))
  else none

/-- The characters in octets which start at a position, maybe in the middle of
a sequence. -/
def decodeFrom (position : Nat) (open? : Option OpenSequence) :
    List UInt8 → Except Utf8Fault (List Char)
  | [] =>
      match open? with
      | none => .ok []
      | some sequence =>
          .error ⟨sequence.lead, sequence.position, sequence.length,
            .unexpectedEnd⟩
  | octet :: rest =>
      match open? with
      | none =>
          if octet < 0x80 then
            (decodeFrom (position + 1) none rest).map
              (Char.ofNat octet.toNat :: ·)
          else
            match OpenSequence.ofLead? position octet with
            | none => .error ⟨octet, position, 1, .invalidStart⟩
            | some sequence => decodeFrom (position + 1) (some sequence) rest
      | some sequence =>
          if sequence.low ≤ octet ∧ octet ≤ sequence.high then
            let value := sequence.value * 64 + octet.toNat % 64
            if sequence.missing ≤ 1 then
              (decodeFrom (position + 1) none rest).map (Char.ofNat value :: ·)
            else
              decodeFrom (position + 1)
                (some { sequence with
                  length := sequence.length + 1
                  missing := sequence.missing - 1
                  value
                  low := 0x80
                  high := 0xbf }) rest
          else
            .error ⟨sequence.lead, sequence.position, sequence.length,
              .invalidContinuation⟩

def decodeUtf8 (octets : List UInt8) : Except Utf8Fault String :=
  (decodeFrom 0 none octets).map String.ofList

end CompilerCalls.Text
