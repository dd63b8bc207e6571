import RecordSql.Bind

namespace RecordSql

-- The type of the items of an array. Types are known by their names.
def ElementType.type (element : ElementType) : ColumnType := ColumnType.ofName element.name

-- A name that is not that of a parsed type nor of a character type stands for an array or for a
-- type that takes no text.
theorem ColumnType.vectorOrArray_ne_character (name : String) (type : CharacterType) :
    (vector? name <|> arrayOf? name).getD (.other ⟨name, none⟩) ≠ .character type := by
  unfold vector?
  split
  · simp
  · simp
  · rw [arrayOf?]
    cases elementTypes.find? fun element => "_" ++ element.name == name <;> simp

-- A name stands for a character type only when it is the name of one.
theorem ColumnType.mem_all_of_ofName {name : String} {type : CharacterType}
    (h : ofName name = .character type) : type ∈ CharacterType.all ∧ type.name = name := by
  rw [ofName] at h
  cases hp : ParsedType.all.find? fun type => type.name == name with
  | some parsed => simp [hp] at h
  | none =>
    cases hc : CharacterType.all.find? fun type => type.name == name with
    | some other =>
      obtain rfl : other = type := by simpa [hp, hc] using h
      exact ⟨List.mem_of_find?_eq_some hc, by simpa using List.find?_some hc⟩
    | none =>
      refine absurd ?_ (vectorOrArray_ne_character name type)
      simpa only [hp, hc, Option.map_none, Option.orElse_eq_orElse, Option.orElse_none] using h

namespace Wire

-- Reads payloads, each behind its length in four bytes, until the bytes are used up.
def payloads? : Nat → List UInt8 → Option (List (List UInt8))
  | 0, [] => some []
  | 0, _ :: _ => none
  | count + 1, bytes =>
    let length := ofBigEndian (bytes.take 4)
    if bytes.length < 4 + length then none
    else (payloads? count (bytes.drop (4 + length))).map ((bytes.drop 4).take length :: ·)

-- The payloads in an array of one dimension without nulls. Behind the item type stand their
-- number and the lower bound.
def arrayPayloads? (bytes : List UInt8) : Option (List (List UInt8)) :=
  let word := fun place => ofBigEndian ((bytes.drop (4 * place)).take 4)
  if word 0 = 1 ∧ word 1 = 0 then payloads? (word 3) (bytes.drop 20) else none

theorem signed_natCast {n : Nat} (h : n < Nat.pow 2 32) : signed 4 n = bigEndian 4 n := by
  have hn : ((n : Int) % (Nat.pow 2 (8 * 4) : Nat)).toNat = n := by
    rw [← Int.natCast_emod, Int.toNat_natCast]
    exact Nat.mod_eq_of_lt h
  rw [signed, hn]

theorem payloads?_cons {payload : List UInt8} (h : payload.length < Nat.pow 2 32) (count : Nat)
    (rest : List UInt8) :
    payloads? (count + 1) (bigEndian 4 payload.length ++ payload ++ rest) =
      (payloads? count rest).map (payload :: ·) := by
  have hlength : ofBigEndian ((bigEndian 4 payload.length ++ payload ++ rest).take 4) =
      payload.length := by
    rw [List.append_assoc, List.take_append_of_le_length (by simp),
      List.take_of_length_le (by simp), ofBigEndian_bigEndian]
    exact Nat.mod_eq_of_lt h
  have hrest : (bigEndian 4 payload.length ++ payload ++ rest).drop (4 + payload.length) = rest :=
    List.drop_left' (by simp)
  have hpayload : ((bigEndian 4 payload.length ++ payload ++ rest).drop 4).take payload.length =
      payload := by
    rw [List.append_assoc, List.drop_left' (by simp), List.take_left' rfl]
  rw [payloads?]
  simp only [hlength, hrest, hpayload]
  rw [if_neg (by simp)]

theorem arrayPayloads?_words {dimensions nulls element count bound : List UInt8}
    (hd : dimensions.length = 4) (hn : nulls.length = 4) (he : element.length = 4)
    (hc : count.length = 4) (hb : bound.length = 4) (written : List UInt8) :
    arrayPayloads? (dimensions ++ nulls ++ element ++ count ++ bound ++ written) =
      if ofBigEndian dimensions = 1 ∧ ofBigEndian nulls = 0 then
        payloads? (ofBigEndian count) written
      else none := by
  simp [arrayPayloads?, List.drop_append, hd, hn, he, hc, hb, List.drop_of_length_le]

end Wire

namespace Bind

theorem integer_length (bytes : Nat) (n : Int) : (integer bytes n).length = bytes :=
  Wire.signed_length bytes n

variable {element : ElementType} {items : List String} {bytes : List UInt8}

theorem lengthOf_eq_ok {n : Nat} (h : lengthOf n = .ok bytes) :
    n < Nat.pow 2 32 ∧ bytes = Wire.bigEndian 4 n := by
  rw [lengthOf] at h
  split at h
  · rename_i hc
    have hle : (n : Int) ≤ 2147483647 := (IntegerRange.contains_iff.mp hc).2
    have hn : n < Nat.pow 2 32 := by
      change n < 4294967296
      omega
    obtain rfl := Except.ok.inj h
    exact ⟨hn, Wire.signed_natCast hn⟩
  · cases h

theorem arrayItems_cons_eq_ok {item : String} {rest : List String}
    (h : arrayItems element (item :: rest) = .ok bytes) :
    ∃ length others, lengthOf (characters (isVersioned element) item).length = .ok length ∧
      arrayItems element rest = .ok others ∧
      bytes = length ++ characters (isVersioned element) item ++ others := by
  rw [arrayItems, arrayItem] at h
  cases hl : lengthOf (characters (isVersioned element) item).length with
  | error e => simp [hl, Except.map, bind, Except.bind] at h
  | ok length =>
    cases ho : arrayItems element rest with
    | error e => simp [hl, ho, Except.map, bind, Except.bind] at h
    | ok others =>
      simp [hl, ho, Except.map, bind, Except.bind, pure, Except.pure] at h
      exact ⟨length, others, rfl, rfl, by simp [← h]⟩

-- The items are read back as the texts that were given, whatever the type of the items.
theorem payloads?_arrayItems (h : arrayItems element items = .ok bytes) :
    Wire.payloads? items.length bytes = some (items.map (characters (isVersioned element))) := by
  induction items generalizing bytes with
  | nil =>
    obtain rfl := Except.ok.inj h
    rfl
  | cons item rest ih =>
    obtain ⟨length, others, hl, ho, rfl⟩ := arrayItems_cons_eq_ok h
    obtain ⟨hfits, rfl⟩ := lengthOf_eq_ok hl
    rw [List.length_cons, Wire.payloads?_cons hfits, ih ho]
    rfl

theorem textArray_eq_ok {lowerBound : Nat} (h : textArray element lowerBound items = .ok bytes) :
    ∃ length written, lengthOf items.length = .ok length ∧ arrayItems element items = .ok written ∧
      bytes = integer 4 1 ++ integer 4 0 ++ Wire.bigEndian 4 element.oid ++ length ++
        integer 4 lowerBound ++ written := by
  rw [textArray] at h
  cases hl : lengthOf items.length with
  | error e => simp [hl, bind, Except.bind] at h
  | ok length =>
    cases hw : arrayItems element items with
    | error e => simp [hl, hw, bind, Except.bind] at h
    | ok written =>
      simp [hl, hw, bind, Except.bind, pure, Except.pure] at h
      exact ⟨length, written, rfl, rfl, by simp [← h]⟩

theorem arrayPayloads?_textArray {lowerBound : Nat}
    (h : textArray element lowerBound items = .ok bytes) :
    Wire.arrayPayloads? bytes = some (items.map (characters (isVersioned element))) := by
  obtain ⟨length, written, hl, hw, rfl⟩ := textArray_eq_ok h
  obtain ⟨hfits, rfl⟩ := lengthOf_eq_ok hl
  have hcount : Wire.ofBigEndian (Wire.bigEndian 4 items.length) = items.length := by
    rw [Wire.ofBigEndian_bigEndian]
    exact Nat.mod_eq_of_lt hfits
  rw [Wire.arrayPayloads?_words (integer_length 4 1) (integer_length 4 0)
    (Wire.bigEndian_length 4 _) (Wire.bigEndian_length 4 _) (integer_length 4 _),
    if_pos (by decide), hcount, payloads?_arrayItems hw]

-- A character type puts a version byte in front of the items of an array when it does so in
-- front of a text by itself.
theorem isVersioned_eq {type : CharacterType} (h : element.type = .character type) :
    isVersioned element = type.versioned := by
  obtain ⟨hmem, hname⟩ := ColumnType.mem_all_of_ofName h
  rw [isVersioned, ← hname]
  clear h hname
  revert type
  decide

end Bind

namespace Value

variable {items : List String} {name : TypeName} {element : ElementType} {lowerBound : Nat}
  {bytes : List UInt8}

-- The items of an array are written as they are, each behind its length. Where the type of the
-- items is a character type this is what the items are bound to one by one. No other type parses
-- them.
theorem textArray_payloads
    (h : (textArray items).bind (.array name element lowerBound) = .ok (some bytes)) :
    ∃ payloads, Wire.arrayPayloads? bytes = some payloads ∧
      payloads = items.map (Bind.characters (Bind.isVersioned element)) ∧
      ∀ type, element.type = .character type →
        items.map (fun item => (text item).bind element.type) =
          payloads.map fun payload => .ok (some payload) := by
  have hbytes : Bind.textArray element lowerBound items = .ok bytes := by
    rw [bind_eq (by simp), bindPresent] at h
    cases hw : Bind.textArray element lowerBound items with
    | error e => simp [hw, Except.map] at h
    | ok written => simpa [hw, Except.map] using h
  refine ⟨_, Bind.arrayPayloads?_textArray hbytes, rfl, fun type htype => ?_⟩
  rw [List.map_map, htype, Bind.isVersioned_eq htype]
  rfl

theorem textArray_payloads_versioned :
    let element : ElementType := ⟨"ltree", 90003⟩
    ∃ bytes payloads,
      (textArray ["a.b", ""]).bind (.array ⟨"_ltree", some "public"⟩ element 1) =
        .ok (some bytes) ∧
      Wire.arrayPayloads? bytes = some payloads ∧
      payloads = [[0x01, 0x61, 0x2e, 0x62], [0x01]] ∧
      ["a.b", ""].map (fun item => (text item).bind element.type) =
        payloads.map fun payload => .ok (some payload) := by
  intro element
  have hbind :
      (textArray ["a.b", ""]).bind (.array ⟨"_ltree", some "public"⟩ ⟨"ltree", 90003⟩ 1) =
        .ok (some [0, 0, 0, 1, 0, 0, 0, 0, 0, 1, 0x5f, 0x93, 0, 0, 0, 2, 0, 0, 0, 1,
          0, 0, 0, 4, 0x01, 0x61, 0x2e, 0x62, 0, 0, 0, 1, 0x01]) := by rfl
  obtain ⟨payloads, hread, htexts, hitems⟩ := textArray_payloads hbind
  exact ⟨_, payloads, hbind, hread, htexts.trans (by decide), hitems ⟨"ltree", true⟩ (by decide)⟩

-- A text that is no number is refused by a number type, but goes out as one item of an array of
-- numbers.
theorem textArray_unparsedNumber :
    let element : ElementType := ⟨"int4", 23⟩
    ¬∀ bytes payloads, (textArray ["abcd"]).bind (.array ⟨"_int4", none⟩ element 1) =
        .ok (some bytes) → Wire.arrayPayloads? bytes = some payloads →
      ["abcd"].map (fun item => (text item).bind element.type) =
        payloads.map fun payload => .ok (some payload) := by
  intro element h
  have hbind : (textArray ["abcd"]).bind (.array ⟨"_int4", none⟩ ⟨"int4", 23⟩ 1) =
      .ok (some [0, 0, 0, 1, 0, 0, 0, 0, 0, 0, 0, 23, 0, 0, 0, 1, 0, 0, 0, 1,
        0, 0, 0, 4, 0x61, 0x62, 0x63, 0x64]) := by rfl
  have hitem : (text "abcd").bind element.type = .error (.integer .invalidDigit) := rfl
  simpa [hitem] using h _ [[0x61, 0x62, 0x63, 0x64]] hbind (by decide)

end Value

end RecordSql
