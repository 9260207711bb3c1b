/-!
Reading bytes as UTF-8 without giving up at the first fault: every character that can be read is
read, and each run of bytes that begins no character leaves a gap.
-/

namespace PageAudit.Text

/-- What the first byte of a character announces: how many bytes follow, the interval that the
second byte must lie in, and the bits that the first byte contributes. -/
structure Lead where
  following : Nat
  low : Nat
  high : Nat
  bits : Nat

def Lead.ofByte? (b : Nat) : Option Lead :=
  if b < 0x80 then some ⟨0, 0, 0, b⟩
  else if b < 0xc2 then none
  else if b < 0xe0 then some ⟨1, 0x80, 0xbf, b - 0xc0⟩
  else if b = 0xe0 then some ⟨2, 0xa0, 0xbf, 0⟩
  else if b = 0xed then some ⟨2, 0x80, 0x9f, 13⟩
  else if b < 0xf0 then some ⟨2, 0x80, 0xbf, b - 0xe0⟩
  else if b = 0xf0 then some ⟨3, 0x90, 0xbf, 0⟩
  else if b < 0xf4 then some ⟨3, 0x80, 0xbf, b - 0xf0⟩
  else if b = 0xf4 then some ⟨3, 0x80, 0x8f, 4⟩
  else none

def isContinuation (b : UInt8) : Bool := 0x80 ≤ b && b ≤ 0xbf

/-- The characters that the bytes spell; `none` marks a run of bytes that is no character. -/
def characters : List UInt8 → List (Option Char)
  | [] => []
  | first :: rest =>
    match Lead.ofByte? first.toNat with
    | none => none :: characters rest
    | some lead =>
      if lead.following = 0 then some (Char.ofNat lead.bits) :: characters rest
      else match rest with
        | [] => [none]
        | second :: rest₂ =>
          if second.toNat < lead.low || lead.high < second.toNat then
            none :: characters (second :: rest₂)
          else
            let bits₂ := lead.bits * 64 + (second.toNat - 0x80)
            if lead.following = 1 then some (Char.ofNat bits₂) :: characters rest₂
            else match rest₂ with
              | [] => [none]
              | third :: rest₃ =>
                if !isContinuation third then none :: characters (third :: rest₃)
                else
                  let bits₃ := bits₂ * 64 + (third.toNat - 0x80)
                  if lead.following = 2 then some (Char.ofNat bits₃) :: characters rest₃
                  else match rest₃ with
                    | [] => [none]
                    | fourth :: rest₄ =>
                      if !isContinuation fourth then none :: characters (fourth :: rest₄)
                      else some (Char.ofNat (bits₃ * 64 + (fourth.toNat - 0x80))) ::
                        characters rest₄

def lossy (bytes : ByteArray) : String :=
  String.ofList ((characters bytes.toList).map (·.getD '\ufffd'))

def strict? (bytes : ByteArray) : Option String :=
  let cs := characters bytes.toList
  if cs.all Option.isSome then some (String.ofList (cs.filterMap id)) else none

end PageAudit.Text
