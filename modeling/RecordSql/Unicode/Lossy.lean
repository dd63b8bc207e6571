namespace RecordSql.Unicode

-- What may follow the first byte of a sequence: the payload of the first byte, the range
-- of the second byte, and how many plain continuation bytes come after it. The range of
-- the second byte keeps out overlong forms, surrogates and what lies beyond the last plane.
structure Lead where
  payload : Nat
  least : UInt8
  greatest : UInt8
  further : Nat

def lead? (b : UInt8) : Option Lead :=
  if 0xC2 ≤ b ∧ b ≤ 0xDF then some ⟨b.toNat - 0xC0, 0x80, 0xBF, 0⟩
  else if b = 0xE0 then some ⟨0, 0xA0, 0xBF, 1⟩
  else if b = 0xED then some ⟨0xD, 0x80, 0x9F, 1⟩
  else if 0xE1 ≤ b ∧ b ≤ 0xEF then some ⟨b.toNat - 0xE0, 0x80, 0xBF, 1⟩
  else if b = 0xF0 then some ⟨0, 0x90, 0xBF, 2⟩
  else if 0xF1 ≤ b ∧ b ≤ 0xF3 then some ⟨b.toNat - 0xF0, 0x80, 0xBF, 2⟩
  else if b = 0xF4 then some ⟨4, 0x80, 0x8F, 2⟩
  else none

def isContinuation (b : UInt8) : Bool :=
  0x80 ≤ b && b ≤ 0xBF

def join (payload : Nat) (b : UInt8) : Nat :=
  64 * payload + (b.toNat - 0x80)

def replacement : Char := '\ufffd'

-- Reads UTF-8. Each longest piece that begins a sequence but does not finish one, and each
-- byte that cannot begin one, becomes one replacement character.
def decodeLossy : List UInt8 → List Char
  | [] => []
  | b :: rest =>
    if b < 0x80 then Char.ofNat b.toNat :: decodeLossy rest
    else
      match lead? b with
      | none => replacement :: decodeLossy rest
      | some lead =>
        match rest with
        | [] => [replacement]
        | second :: rest2 =>
          if second < lead.least ∨ lead.greatest < second then
            replacement :: decodeLossy (second :: rest2)
          else
            let two := join lead.payload second
            if lead.further = 0 then Char.ofNat two :: decodeLossy rest2
            else
              match rest2 with
              | [] => [replacement]
              | third :: rest3 =>
                if !isContinuation third then replacement :: decodeLossy (third :: rest3)
                else
                  let three := join two third
                  if lead.further = 1 then Char.ofNat three :: decodeLossy rest3
                  else
                    match rest3 with
                    | [] => [replacement]
                    | fourth :: rest4 =>
                      if !isContinuation fourth then
                        replacement :: decodeLossy (fourth :: rest4)
                      else Char.ofNat (join three fourth) :: decodeLossy rest4

end RecordSql.Unicode
