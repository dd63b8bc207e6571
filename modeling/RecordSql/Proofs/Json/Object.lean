import RecordSql.Proofs.Json.Scalar

namespace RecordSql.Json

-- A natural number as its digits.
def natural (n : Nat) : Json :=
  .number ⟨false, Nat.toDigits 10 n, none, none⟩

-- How a text or a natural number is written.
inductive WrittenScalar : List Char → Json → Prop
  | text (s : String) : WrittenScalar (writeText s.toList) (.text s)
  | natural (n : Nat) : WrittenScalar (Nat.toDigits 10 n) (natural n)

def Blanks (text : List Char) : Prop :=
  ∀ c ∈ text, isSpace c = true

instance (text : List Char) : Decidable (Blanks text) :=
  decidable_of_iff (text.all isSpace = true) List.all_eq_true

-- How a member of an object is written. There may be blanks around the key and the value.
inductive WrittenMember : List Char → String × Json → Prop
  | mk (key : String) {before between behind after text : List Char} {value : Json}
      (hbefore : Blanks before) (hbetween : Blanks between) (hbehind : Blanks behind)
      (hafter : Blanks after) (hvalue : WrittenScalar text value) :
      WrittenMember
        (before ++ (writeText key.toList ++ (between ++ ':' :: (behind ++ (text ++ after)))))
        (key, value)

-- Members, at least one of them, with commas in between.
inductive WrittenMembers : List Char → List (String × Json) → Prop
  | last {text : List Char} {member : String × Json} (h : WrittenMember text member) :
      WrittenMembers text [member]
  | more {text rest : List Char} {member : String × Json} {members : List (String × Json)}
      (h : WrittenMember text member) (hrest : WrittenMembers rest members) :
      WrittenMembers (text ++ ',' :: rest) (member :: members)

-- How an object of such members is written, with blanks around it.
inductive WrittenObject : List Char → List (String × Json) → Prop
  | mk {before inner after : List Char} {members : List (String × Json)} (hbefore : Blanks before)
      (hinner : WrittenMembers inner members) (hafter : Blanks after) :
      WrittenObject (before ++ '\x7b' :: (inner ++ '\x7d' :: after)) members

section Written

variable {text : List Char} {members : List (String × Json)}

theorem WrittenMembers.ne_nil (h : WrittenMembers text members) : members ≠ [] := by
  cases h <;> exact List.cons_ne_nil _ _

theorem WrittenObject.ne_nil (h : WrittenObject text members) : text ≠ [] ∧ members ≠ [] := by
  cases h with
  | mk _ hinner _ => exact ⟨by simp, hinner.ne_nil⟩

theorem exists_writtenMembers (hne : members ≠ [])
    (h : ∀ member ∈ members, ∃ text, WrittenScalar text member.2) :
    ∃ text, WrittenMembers text members := by
  have hnone : Blanks [] := by decide
  induction members with
  | nil => contradiction
  | cons member others ih =>
    obtain ⟨key, value⟩ := member
    obtain ⟨⟨text, htext⟩, hothers⟩ := List.forall_mem_cons.mp h
    have hmember := WrittenMember.mk key hnone hnone hnone hnone htext
    by_cases hlast : others = []
    · subst hlast
      exact ⟨_, .last hmember⟩
    · obtain ⟨rest, hrest⟩ := ih hlast hothers
      exact ⟨_, .more hmember hrest⟩

-- Every list of such members is written in some way.
theorem exists_writtenObject (hne : members ≠ [])
    (h : ∀ member ∈ members, ∃ text, WrittenScalar text member.2) :
    ∃ text : String, WrittenObject text.toList members := by
  have hnone : Blanks [] := by decide
  obtain ⟨inner, hinner⟩ := exists_writtenMembers hne h
  refine ⟨String.ofList ([] ++ '\x7b' :: (inner ++ ['\x7d'])), ?_⟩
  rw [String.toList_ofList]
  exact .mk hnone hinner hnone

end Written

-- What a text is split into, for which its length is fuel enough.
def Scans (text : List Char) (tokens : List Token) : Prop :=
  ∀ fuel, text.length ≤ fuel → scan fuel text = some tokens

-- A text that no word before it goes on into.
def EndsWord (text : List Char) : Prop :=
  ∀ c ∈ text.head?, isWordChar c = false

section Pieces

variable {text rest : List Char} {tokens : List Token}

theorem endsWord_cons {c : Char} (h : isWordChar c = false) : EndsWord (c :: rest) := by
  simpa [EndsWord] using h

theorem EndsWord.blanks (h : EndsWord rest) (hb : Blanks text) : EndsWord (text ++ rest) := by
  cases text with
  | nil => exact h
  | cons first others =>
    refine endsWord_cons (Bool.eq_false_iff.mpr fun hword => ?_)
    have hfirst := hb first List.mem_cons_self
    simp [(plain_of_isWordChar hword).1] at hfirst

theorem scans_nil : Scans [] [] := by
  intro fuel _
  cases fuel <;> rfl

theorem Scans.blanks (h : Scans rest tokens) (hb : Blanks text) : Scans (text ++ rest) tokens := by
  induction text with
  | nil => exact h
  | cons c others ih =>
    obtain ⟨hc, hothers⟩ := List.forall_mem_cons.mp hb
    intro fuel hfuel
    obtain ⟨fuel, rfl⟩ := Nat.exists_eq_add_of_le' (Nat.le_trans (Nat.succ_pos _) hfuel)
    rw [List.cons_append, scan, if_pos hc]
    exact ih hothers fuel (Nat.le_of_succ_le_succ hfuel)

theorem plain_of_punctuation? {c : Char} {token : Token} (h : punctuation? c = some token) :
    isSpace c = false ∧ c ≠ '"' := by
  unfold punctuation? at h
  split_ifs at h with hc hc hc hc hc hc
  all_goals
    subst hc
    decide

theorem Scans.mark {token : Token} (h : Scans rest tokens) (c : Char)
    (hc : punctuation? c = some token) : Scans (c :: rest) (token :: tokens) := by
  intro fuel hfuel
  obtain ⟨fuel, rfl⟩ := Nat.exists_eq_add_of_le' (Nat.le_trans (Nat.succ_pos _) hfuel)
  have hrest := h fuel (Nat.le_of_succ_le_succ hfuel)
  obtain ⟨hspace, hquote⟩ := plain_of_punctuation? hc
  simp [scan, hspace, hquote, hc, hrest]

theorem WrittenScalar.ne_nil {value : Json} (h : WrittenScalar text value) : text ≠ [] := by
  cases h with
  | text s => simp [writeText]
  | natural n => exact Nat.toDigits_ne_nil

theorem WrittenScalar.scan {value : Json} (h : WrittenScalar text value) (fuel : Nat)
    (hrest : EndsWord rest) :
    Json.scan (fuel + 1) (text ++ rest) = (Json.scan fuel rest).map (.scalar value :: ·) := by
  cases h with
  | text s => rw [scan_writeText, String.ofList_toList]
  | natural n =>
    have hword : word? (decimal n) = some (Json.natural n) := by
      rw [word?_decimal, Json.natural, decide_eq_false (by omega), Int.natAbs_natCast]
    rw [← decimal_natural, scan_word (decimal_ne_nil n) (fun _ => isWordChar_decimal) hrest, hword,
      Option.bind_some]

theorem Scans.scalar {value : Json} (h : Scans rest tokens) (hvalue : WrittenScalar text value)
    (hrest : EndsWord rest) :
    Scans (text ++ rest) (.scalar value :: tokens) := by
  intro fuel hfuel
  have htext := List.length_pos_iff.mpr hvalue.ne_nil
  rw [List.length_append] at hfuel
  obtain ⟨fuel, rfl⟩ := Nat.exists_eq_add_of_le' (show 1 ≤ fuel by omega)
  rw [hvalue.scan fuel hrest, h fuel (by omega)]
  rfl

end Pieces

section Members

-- The pieces of members with commas in between.
def memberTokens (members : List (String × Json)) : List Token :=
  [Token.comma].intercalate
    (members.map fun (key, value) => [.scalar (.text key), .colon, .scalar value])

variable {text rest : List Char} {tokens : List Token} {members : List (String × Json)}

theorem memberTokens_cons (key : String) (value : Json) (h : members ≠ []) :
    memberTokens ((key, value) :: members) =
      .scalar (.text key) :: .colon :: .scalar value :: .comma :: memberTokens members := by
  rw [memberTokens, List.map_cons, List.intercalate_cons_of_ne_nil (by simpa using h)]
  rfl

theorem WrittenMember.scans {key : String} {value : Json} (h : WrittenMember text (key, value))
    (hrest : EndsWord rest) (ht : Scans rest tokens) :
    Scans (text ++ rest) (.scalar (.text key) :: .colon :: .scalar value :: tokens) := by
  cases h with
  | mk key hbefore hbetween hbehind hafter hvalue =>
    simp only [List.append_assoc, List.cons_append]
    have hscalar := (ht.blanks hafter).scalar hvalue (hrest.blanks hafter)
    have hcolon := ((hscalar.blanks hbehind).mark ':' rfl).blanks hbetween
    refine (hcolon.scalar (.text key) (EndsWord.blanks ?_ hbetween)).blanks hbefore
    exact endsWord_cons (by decide)

theorem WrittenMembers.scans (h : WrittenMembers text members)
    (hrest : EndsWord rest) (ht : Scans rest tokens) :
    Scans (text ++ rest) (memberTokens members ++ tokens) := by
  induction h with
  | last hmember => exact hmember.scans hrest ht
  | @more text others member members hmember hothers ih =>
    obtain ⟨key, value⟩ := member
    rw [memberTokens_cons key value hothers.ne_nil, List.append_assoc, List.cons_append]
    exact hmember.scans (endsWord_cons (by decide)) (ih.mark ',' rfl)

-- Every member takes one unit of fuel, and the value of the last one takes another.
theorem readMembers_memberTokens {fuel : Nat} (depth : Nat) (hne : members ≠ [])
    (hfuel : members.length < fuel) :
    readMembers fuel depth (memberTokens members ++ .closeBrace :: tokens) =
      some (members.map fun (key, value) => (some key, value), tokens) := by
  induction members generalizing fuel with
  | nil => contradiction
  | cons member members ih =>
    obtain ⟨key, value⟩ := member
    rw [List.length_cons] at hfuel
    obtain ⟨fuel, rfl⟩ := Nat.exists_eq_add_of_le' (show 2 ≤ fuel by omega)
    -- the brace follows the last member, and a comma every other one
    by_cases hmembers : members = []
    · subst hmembers
      simp [memberTokens, readMembers, readValue, key?]
    · have hothers := @ih (fuel + 1) hmembers (by omega)
      rw [memberTokens_cons key value hmembers]
      simp [readMembers, readValue, key?, hothers]

theorem mapM_known {read : Option String × Json → Option (String × Json)}
    (hread : ∀ key value, read (some key, value) = some (key, value)) :
    (members.map fun (key, value) => (some key, value)).mapM read = some members := by
  induction members with
  | nil => rfl
  | cons member members ih =>
    obtain ⟨key, value⟩ := member
    simp [hread, ih]

theorem ofMembers_known (members : List (String × Json)) :
    ofMembers (members.map fun (key, value) => (some key, value)) = .object members := by
  rw [ofMembers, mapM_known fun _ _ => rfl]

theorem length_le_memberTokens (members : List (String × Json)) :
    members.length ≤ (memberTokens members).length := by
  induction members with
  | nil => exact Nat.zero_le _
  | cons member members ih =>
    obtain ⟨key, value⟩ := member
    by_cases hmembers : members = []
    · subst hmembers
      simp [memberTokens]
    · rw [memberTokens_cons key value hmembers]
      simp only [List.length_cons]
      omega

theorem WrittenObject.scans (h : WrittenObject text members) :
    Scans text (.openBrace :: (memberTokens members ++ [.closeBrace])) := by
  cases h with
  | mk hbefore hinner hafter =>
    have hclose := (scans_nil.blanks hafter).mark '\x7d' rfl
    rw [List.append_nil] at hclose
    exact ((hinner.scans (endsWord_cons (by decide)) hclose).mark '\x7b' rfl).blanks hbefore

theorem readValue_object {fuel : Nat} (depth : Nat) (hne : members ≠ [])
    (hfuel : members.length < fuel) :
    readValue (fuel + 1) (depth + 1)
        (.openBrace :: (memberTokens members ++ .closeBrace :: tokens)) =
      some (.object members, tokens) := by
  have hread : readMembers fuel depth (memberTokens members ++ .closeBrace :: tokens) = _ :=
    readMembers_memberTokens depth hne hfuel
  obtain ⟨others, hothers⟩ : ∃ others, memberTokens members ++ .closeBrace :: tokens =
      .scalar (.text (members.head hne).1) :: others := by
    obtain ⟨⟨key, value⟩, rest, rfl⟩ := List.exists_cons_of_ne_nil hne
    by_cases hrest : rest = []
    · subst hrest
      exact ⟨_, rfl⟩
    · rw [memberTokens_cons key value hrest]
      exact ⟨_, rfl⟩
  rw [hothers] at hread ⊢
  simp [readValue, hread, ofMembers_known]

-- A written object is read as its members, in the order of the text.
theorem read?_object {depth : Nat} {text : String} (h : WrittenObject text.toList members)
    (hdepth : 0 < depth) : read? depth text = some (.object members) := by
  obtain ⟨depth, rfl⟩ := Nat.exists_eq_add_of_le' hdepth
  have hscan := h.scans text.length (Nat.le_of_eq String.length_toList)
  have hfuel := length_le_memberTokens members
  rw [read?, hscan, Option.bind_eq_bind, Option.bind_some,
    readValue_object depth h.ne_nil.2 (by simp only [List.length_cons, List.length_append]; omega)]
  rfl

end Members

end RecordSql.Json
