import RecordSql.Proofs.Json.Object
import RecordSql.Proofs.Outcome
import RecordSql.Proofs.Text.Entries
import RecordSql.StoreConfig

namespace RecordSql.StoreConfig

-- What a source states of a configuration. Numbers may be left out, and those that are stated are
-- of any size.
structure Stated where
  databaseUrl : String
  seconds : Option Nat
  retries : Option Nat
  connections : Option Nat

namespace Stated

-- Variables that state this much, each number by its digits. Other variables do not count.
structure InEnvironment (stated : Stated) (stem : String) (valueOf : String → Option String) :
    Prop where
  databaseUrl : valueOf "DATABASE_URL" = some stated.databaseUrl
  seconds : valueOf (stem ++ "_TIMEOUT_SECS") = stated.seconds.map decimalNat
  retries : valueOf (stem ++ "_RETRY_COUNT") = stated.retries.map decimalNat
  connections : valueOf (stem ++ "_MAX_CONNECTIONS") = stated.connections.map decimalNat

def numberMember (name : String) (number : Option Nat) : List (String × Json) :=
  (number.map fun n => (name, Json.natural n)).toList

-- The members of an object that states this much. A number that is left out has no member.
def members (stated : Stated) : List (String × Json) :=
  ("database_url", .text stated.databaseUrl) ::
    (numberMember "timeout_secs" stated.seconds ++ numberMember "retry_count" stated.retries ++
      numberMember "max_connections" stated.connections)

-- A text that is such an object, with its members in any order.
def InJson (stated : Stated) (text : String) : Prop :=
  ∃ members, members.Perm stated.members ∧ Json.WrittenObject text.toList members

-- Every number that is stated fits into its width.
structure Fit (stated : Stated) : Prop where
  seconds : ∀ n ∈ stated.seconds, n < 2 ^ 64
  retries : ∀ n ∈ stated.retries, n < 2 ^ 32
  connections : ∀ n ∈ stated.connections, n < 2 ^ 64

-- The configuration that is stated, with the usual number for each one that is left out.
structure Configures (stated : Stated) (config : StoreConfig) : Prop where
  databaseUrl : config.databaseUrl = stated.databaseUrl
  timeout : config.timeout = Duration.ofSeconds (stated.seconds.getD 30)
  retryCount : config.retryCount = stated.retries.getD 0
  maxConnections : config.maxConnections = stated.connections.getD 16

def config (stated : Stated) : StoreConfig :=
  ofParts stated.databaseUrl stated.seconds stated.retries stated.connections

theorem configures_config (stated : Stated) : stated.Configures stated.config where
  databaseUrl := rfl
  timeout := by cases h : stated.seconds <;> simp [config, ofParts, h]
  retryCount := rfl
  maxConnections := rfl

end Stated

section Numbers

variable {width : Nat} {number result : Option Nat}

theorem environmentNumber_eq_ok_iff (key : String) :
    environmentNumber (.unsigned width) key (number.map decimalNat) = .ok result ↔
      result = number ∧ ∀ n ∈ number, n < 2 ^ width := by
  cases number with
  | none => simpa [environmentNumber] using eq_comm
  | some n =>
    have hgreatest : 0 ≤ (IntegerRange.unsigned width).greatest :=
      (IntegerRange.contains_iff.mp ((IntegerRange.contains_unsigned width 0).mpr (by simp))).2
    rw [Option.map_some, environmentNumber,
      IntegerRange.read?_trim_decimalNat (Int.le_refl 0) hgreatest]
    by_cases hn : n < 2 ^ width
    · simpa [IntegerRange.contains_unsigned, hn] using eq_comm
    · simp [IntegerRange.contains_unsigned, hn]

theorem integer?_natural (n : Nat) :
    (⟨false, Nat.toDigits 10 n, none, none⟩ : JsonNumber).integer? =
      if n ≤ JsonNumber.greatest then some (n : Int) else none := by
  simp [JsonNumber.integer?, Nat.ofDigitChars_ten_toDigits]

-- No number of more than 64 bits is an integer of JSON, and none of these widths holds it.
theorem number?_natural (hw : width ≤ 64) (n : Nat) :
    number? (.unsigned width) (Json.natural n) = if n < 2 ^ width then some n else none := by
  have hwidth : 2 ^ width ≤ 2 ^ 64 := Nat.pow_le_pow_right (by decide) hw
  have hgreatest : JsonNumber.greatest = 2 ^ 64 - 1 := rfl
  rw [Json.natural, number?, integer?_natural]
  by_cases hn : n < 2 ^ width
  · have hle : n ≤ JsonNumber.greatest := by omega
    simp [hle, IntegerRange.contains_unsigned, hn]
  · by_cases hle : n ≤ JsonNumber.greatest
    · simp [hle, IntegerRange.contains_unsigned, hn]
    · simp [hle, hn]

theorem optionally_number?_eq_some_iff (hw : width ≤ 64) :
    optionally (number? (.unsigned width)) (number.map Json.natural) = some result ↔
      result = number ∧ ∀ n ∈ number, n < 2 ^ width := by
  cases number with
  | none => simpa [optionally] using eq_comm
  | some n =>
    rw [Option.map_some, optionally, number?_natural hw]
    by_cases hn : n < 2 ^ width
    · simpa [hn] using eq_comm
    · simp [hn]

end Numbers

namespace Stated

variable {stated : Stated} {config : StoreConfig}

section Environment

variable {stem : String} {valueOf : String → Option String}

theorem ofEnvironment_eq_ok_iff (h : stated.InEnvironment stem valueOf) :
    ofEnvironment stem valueOf = .ok config ↔ stated.Fit ∧ config = stated.config := by
  rw [ofEnvironment, h.databaseUrl]
  simp only [h.seconds, h.retries, h.connections, secondsRange, retryRange, connectionsRange,
    bind_eq_ok_iff, environmentNumber_eq_ok_iff]
  constructor
  · rintro ⟨_, ⟨rfl, hseconds⟩, _, ⟨rfl, hretries⟩, _, ⟨rfl, hconnections⟩, hconfig⟩
    exact ⟨⟨hseconds, hretries, hconnections⟩, (Except.ok.inj hconfig).symm⟩
  · rintro ⟨⟨hseconds, hretries, hconnections⟩, rfl⟩
    exact ⟨_, ⟨rfl, hseconds⟩, _, ⟨rfl, hretries⟩, _, ⟨rfl, hconnections⟩, rfl⟩

end Environment

section Object

theorem map_fst_members_sublist (stated : Stated) :
    (stated.members.map (·.1)).Sublist memberNames := by
  have hnumber : ∀ name number, ((numberMember name number).map (·.1)).Sublist [name] := by
    intro name number
    cases number with
    | none => exact List.nil_sublist _
    | some n => exact List.Sublist.refl _
  rw [members, List.map_cons, List.map_append, List.map_append]
  exact (((hnumber _ _).append (hnumber _ _)).append (hnumber _ _)).cons_cons _

theorem nodup_members (stated : Stated) : (stated.members.map (·.1)).Nodup :=
  stated.map_fst_members_sublist.nodup (by decide)

theorem lookup_numberMember (name key : String) (number : Option Nat) :
    (numberMember name number).lookup key =
      if key == name then number.map Json.natural else none := by
  cases number with
  | none => simp [numberMember]
  | some n =>
    rw [numberMember, Option.map_some, Option.toList_some, List.lookup_cons]
    split <;> simp [*]

theorem lookup_members (stated : Stated) :
    stated.members.lookup "database_url" = some (.text stated.databaseUrl) ∧
      stated.members.lookup "timeout_secs" = stated.seconds.map Json.natural ∧
      stated.members.lookup "retry_count" = stated.retries.map Json.natural ∧
      stated.members.lookup "max_connections" = stated.connections.map Json.natural := by
  simp [members, List.lookup_cons, List.lookup_append, lookup_numberMember]

theorem isRepeated_eq_false {members : List (String × Json)} (hn : (members.map (·.1)).Nodup)
    (name : String) : isRepeated members name = false := by
  have hcount := List.nodup_iff_count_le_one.mp hn name
  rw [List.count, List.countP_map] at hcount
  exact decide_eq_false (Nat.not_lt.mpr hcount)

-- The order of the members does not count, for none of them is repeated.
theorem ofJson?_object {members : List (String × Json)} (hp : members.Perm stated.members) :
    ofJson? (.object members) =
      ofJsonParts? (some (.text stated.databaseUrl)) (stated.seconds.map Json.natural)
        (stated.retries.map Json.natural) (stated.connections.map Json.natural) := by
  have hnames : (members.map (·.1)).Nodup := (hp.map (·.1)).nodup_iff.mpr stated.nodup_members
  have hrepeated : memberNames.any (isRepeated members) = false := by
    simp [isRepeated_eq_false hnames]
  have hlookup := lookup_perm hp stated.nodup_members
  obtain ⟨hurl, hseconds, hretries, hconnections⟩ := stated.lookup_members
  rw [ofJson?, hrepeated, if_neg (by decide), hlookup, hlookup, hlookup, hlookup, hurl, hseconds,
    hretries, hconnections]

theorem ofJsonParts?_eq_some_iff :
    ofJsonParts? (some (.text stated.databaseUrl)) (stated.seconds.map Json.natural)
        (stated.retries.map Json.natural) (stated.connections.map Json.natural) = some config ↔
      stated.Fit ∧ config = stated.config := by
  simp only [ofJsonParts?, secondsRange, retryRange, connectionsRange, Option.bind_eq_bind,
    Option.bind_eq_some_iff]
  simp (disch := decide) only [optionally_number?_eq_some_iff]
  constructor
  · rintro ⟨_, hurl, _, ⟨rfl, hseconds⟩, _, ⟨rfl, hretries⟩, _, ⟨rfl, hconnections⟩, hconfig⟩
    obtain rfl := Option.some.inj hurl
    exact ⟨⟨hseconds, hretries, hconnections⟩, (Option.some.inj hconfig).symm⟩
  · rintro ⟨⟨hseconds, hretries, hconnections⟩, rfl⟩
    exact ⟨_, rfl, _, ⟨rfl, hseconds⟩, _, ⟨rfl, hretries⟩, _, ⟨rfl, hconnections⟩, rfl⟩

theorem readJson?_eq_some_iff {text : String} (h : stated.InJson text) :
    readJson? text = some config ↔ stated.Fit ∧ config = stated.config := by
  obtain ⟨members, hp, hwritten⟩ := h
  have hlength : 0 < text.length := by
    rw [← String.length_toList]
    exact List.length_pos_iff.mpr hwritten.ne_nil.1
  rw [readJson?, Json.read?_object hwritten hlength, Option.bind_some, ofJson?_object hp]
  exact ofJsonParts?_eq_some_iff

end Object

end Stated

section Sources

variable (stated : Stated) (stem : String)

-- No stem gives a variable for a number the name of the one for the address.
theorem databaseUrl_ne_append {name : String}
    (h : name ∈ ["_TIMEOUT_SECS", "_RETRY_COUNT", "_MAX_CONNECTIONS"]) :
    "DATABASE_URL" ≠ stem ++ name := by
  have hends : name.toList ≠ [] ∧ "DATABASE_URL".toList.getLast? ≠ name.toList.getLast? := by
    revert name
    decide
  intro heq
  rw [heq, String.toList_append, List.getLast?_append_of_ne_nil _ hends.1] at hends
  exact hends.2 rfl

theorem Stated.exists_inEnvironment : ∃ valueOf, stated.InEnvironment stem valueOf := by
  refine ⟨fun name =>
    if name = stem ++ "_TIMEOUT_SECS" then stated.seconds.map decimalNat
    else if name = stem ++ "_RETRY_COUNT" then stated.retries.map decimalNat
    else if name = stem ++ "_MAX_CONNECTIONS" then stated.connections.map decimalNat
    else some stated.databaseUrl, ?_, ?_, ?_, ?_⟩
  · simp [databaseUrl_ne_append]
  · simp
  · simp
  · simp

theorem Stated.exists_inJson : ∃ text, stated.InJson text := by
  have hnumber : ∀ name number, ∀ member ∈ numberMember name number,
      ∃ text, Json.WrittenScalar text member.2 := by
    intro name number member hmember
    cases number with
    | none => simp [numberMember] at hmember
    | some n =>
      obtain rfl : member = (name, Json.natural n) := by simpa [numberMember] using hmember
      exact ⟨_, .natural n⟩
  have hscalar : ∀ member ∈ stated.members, ∃ text, Json.WrittenScalar text member.2 := by
    simp only [Stated.members, List.forall_mem_cons, List.forall_mem_append]
    exact ⟨⟨_, .text _⟩, ⟨hnumber _ _, hnumber _ _⟩, hnumber _ _⟩
  obtain ⟨text, htext⟩ := Json.exists_writtenObject (List.cons_ne_nil _ _) hscalar
  exact ⟨text, _, List.Perm.refl _, htext⟩

end Sources

-- A configuration is the same from the environment and from JSON. Both take just the numbers that
-- fit into their widths, and both put the usual number in the place of one that is left out.
theorem sources_agree (stated : Stated) (stem : String) :
    (∃ valueOf, stated.InEnvironment stem valueOf) ∧ (∃ text, stated.InJson text) ∧
      ∀ valueOf text, stated.InEnvironment stem valueOf → stated.InJson text →
        ((∃ config, ofEnvironment stem valueOf = .ok config) ↔
            ∃ config, readJson? text = some config) ∧
          ((∃ config, readJson? text = some config) ↔ stated.Fit) ∧
          (stated.Fit → ∃ config, ofEnvironment stem valueOf = .ok config ∧
            readJson? text = some config ∧ stated.Configures config) := by
  refine ⟨stated.exists_inEnvironment stem, stated.exists_inJson, fun valueOf text he hj => ?_⟩
  have henvironment : (∃ config, ofEnvironment stem valueOf = .ok config) ↔ stated.Fit := by
    simp [Stated.ofEnvironment_eq_ok_iff he]
  have hjson : (∃ config, readJson? text = some config) ↔ stated.Fit := by
    simp [Stated.readJson?_eq_some_iff hj]
  refine ⟨henvironment.trans hjson.symm, hjson, fun hfit => ⟨stated.config, ?_, ?_, ?_⟩⟩
  · exact (Stated.ofEnvironment_eq_ok_iff he).mpr ⟨hfit, rfl⟩
  · exact (Stated.readJson?_eq_some_iff hj).mpr ⟨hfit, rfl⟩
  · exact stated.configures_config

-- The longest timeout, no connection, and nothing on retries.
def patient : Stated := ⟨"host=\"db\"", some 18446744073709551615, none, some 0⟩

def patientVariables (name : String) : Option String :=
  [("TAGSQL_MAX_CONNECTIONS", "0"), ("DATABASE_URL", "host=\"db\""), ("RETRY_COUNT", "many"),
    ("TAGSQL_TIMEOUT_SECS", "18446744073709551615")].lookup name

def patientObject : String :=
  "\x7b \"max_connections\" :0,\n \"timeout_secs\": 18446744073709551615 ," ++
    "\"database_url\":\"host=\\\"db\\\"\"\x7d "

theorem inEnvironment_patient : patient.InEnvironment "TAGSQL" patientVariables := by
  constructor <;> decide +kernel

theorem inJson_patient : patient.InJson patientObject := by
  have hnone : Json.Blanks [] := by decide
  have hspace : Json.Blanks [' '] := by decide
  have hline : Json.Blanks ['\n', ' '] := by decide
  have hobject := Json.WrittenObject.mk hnone
    (.more (.mk "max_connections" hspace hspace hnone hnone (.natural 0))
      (.more (.mk "timeout_secs" hline hnone hspace hspace (.natural 18446744073709551615))
        (.last (.mk "database_url" hnone hnone hnone hnone (.text "host=\"db\""))))) hspace
  refine ⟨_, List.reverse_perm _, Eq.mp (congrArg (Json.WrittenObject · _) ?_) hobject⟩
  decide +kernel

theorem sources_agree_patient :
    patient.InEnvironment "TAGSQL" patientVariables ∧ patient.InJson patientObject ∧
      ∃ config, ofEnvironment "TAGSQL" patientVariables = .ok config ∧
        readJson? patientObject = some config ∧ patient.Configures config := by
  obtain ⟨-, -, hagree⟩ := sources_agree patient "TAGSQL"
  have hfit : patient.Fit := by
    constructor <;> simp [patient]
  obtain ⟨-, -, hconfig⟩ := hagree _ _ inEnvironment_patient inJson_patient
  exact ⟨inEnvironment_patient, inJson_patient, hconfig hfit⟩

end RecordSql.StoreConfig
