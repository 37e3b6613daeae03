import NameService.Config.Document
import NameService.Proofs.Json.Likeness
import NameService.Proofs.Json.Printing

/-!
Configurations that are stored and loaded again. Only the passwords are lost. The tables of a
configuration are dictionaries, and nothing depends on the order in which they are written down.

## Main results

- `Config.filed_of_decode`: a table that was read has no key twice.
- `Config.decode_toJson`: a configuration is read as it was written, without the passwords.
- `Config.Same.alike`: the order of the tables does not matter to what is written.
- `Config.ofText_stored`: the same for texts that are loaded, bounds included.
-/

namespace NameService

open Json Json.Decoder

/-! ### Words and records -/

theorem Database.name_injective : Function.Injective name := by
  intro a b equal
  have found := a.ofName?_name
  rw [equal, b.ofName?_name] at found
  exact (Option.some.inj found).symm

@[simp] theorem Scope.decode_word (scope : Scope) : decode (.string scope.word) = .ok scope :=
  choice_string scope.ofWord?_word

@[simp] theorem Deref.decode_word (deref : Deref) : decode (.string deref.word) = .ok deref :=
  choice_string deref.ofWord?_word

@[simp] theorem Tls.Mode.decode_word (mode : Mode) : decode (.string mode.word) = .ok mode :=
  choice_string mode.ofWord?_word

def Credentials.withoutPassword (credentials : Credentials) : Credentials :=
  { credentials with password := none }

theorem Credentials.decode_toJson (credentials : Credentials) :
    decode credentials.toJson = .ok credentials.withoutPassword := by
  obtain ⟨name, password⟩ := credentials
  cases name <;>
    simp [decode, toJson, withoutPassword, recordFrom, field, optionalMember, pure, Except.pure]

theorem Tls.decode_toJson (tls : Tls) : decode tls.toJson = .ok tls := by
  obtain ⟨mode, verify, authorities⟩ := tls
  cases authorities <;> simp [decode, toJson, recordFrom, field, optionalMember, pure, Except.pure]

theorem Failover.Policy.decode_toJson (policy : Policy) : decode policy.toJson = .ok policy := by
  have mode := choice_string policy.mode.ofWord?_word
  simp [decode, toJson, mode, recordFrom, field, pure, Except.pure]

theorem Flags.decode_toJson (flags : Flags) : decode flags.toJson = .ok flags := by
  simp [decode, toJson, recordFrom, field, pure, Except.pure]

theorem Descriptor.decode_toJson (descriptor : Descriptor) :
    decode descriptor.toJson = .ok descriptor := by
  obtain ⟨base, scope, filter⟩ := descriptor
  cases scope <;> cases filter <;>
    simp [decode, toJson, Scope.toJson, recordFrom, field, Field.needed, optionalMember, pure,
      Except.pure]

/-! ### Tables -/

namespace NameTable

/-- No database has two tables, and no table has a name twice. -/
structure Filed (table : NameTable) : Prop where
  databases : Pairs.Filed table
  names : ∀ pair ∈ table, Pairs.Filed pair.2

theorem filed_of_decode {v : Json} {table : NameTable} (read : decode v = .ok table) :
    Filed table := by
  obtain ⟨databases, each⟩ := dictionary_read read
  constructor
  · exact databases
  · intro pair member
    obtain ⟨item, inner⟩ := each pair member
    exact (dictionary_read inner).1

theorem decode_toJson {table : NameTable} (filed : Filed table) :
    decode (toJson table) = .ok table := by
  apply dictionary_ofMembers _ filed.databases
  rw [List.forall₂_map_left_iff, List.forall₂_same]
  intro pair member
  constructor
  · exact pair.1.ofName?_name
  · apply dictionary_ofMembers _ (filed.names pair member)
    rw [List.forall₂_map_left_iff, List.forall₂_same]
    exact fun _ _ => ⟨rfl, rfl⟩

/-- The same texts under the same keys, in any order. -/
def Same (s t : NameTable) : Prop := Pairs.Same List.Perm s t

variable {s t : NameTable}

theorem Same.filed (same : Same s t) (filed : Filed t) : Filed s := by
  constructor
  · exact Pairs.Same.filed same filed.databases
  · intro pair member
    obtain ⟨other, among, moved⟩ := Pairs.Same.exists_related same member
    exact Pairs.filed_of_perm moved (filed.names other among)

theorem Same.alike (same : Same s t) (filed : Filed s) : Alike (toJson s) (toJson t) := by
  apply Pairs.Same.alike Database.name_injective (fun _ => rfl) _ filed.databases same
  intro pair member other moved
  apply Pairs.Same.alike Function.injective_id _ _ (filed.names pair member)
    (.of_perm Eq.refl moved)
  · exact fun _ => rfl
  · intro text _ other equal
    dsimp only
    rw [equal]
    exact .refl _

end NameTable

/-- The member of a configuration that says where each database is searched. -/
def descriptorsToJson (chains : List (Database × List Descriptor)) : Json :=
  ofMembers (chains.map fun (database, found) =>
    (database.name, ofList (found.map Descriptor.toJson)))

theorem decode_descriptorsToJson {chains : List (Database × List Descriptor)}
    (filed : Pairs.Filed chains) :
    dictionary Database.ofName? (list Descriptor.decode) (descriptorsToJson chains) =
      .ok chains := by
  apply dictionary_ofMembers _ filed
  rw [List.forall₂_map_left_iff, List.forall₂_same]
  intro pair _
  constructor
  · exact pair.1.ofName?_name
  · exact list_ofList fun descriptor _ => descriptor.decode_toJson

theorem alike_descriptorsToJson {chains others : List (Database × List Descriptor)}
    (filed : Pairs.Filed chains) (moved : chains.Perm others) :
    Alike (descriptorsToJson chains) (descriptorsToJson others) := by
  apply Pairs.Same.alike Database.name_injective (fun _ => rfl) _ filed (.of_perm Eq.refl moved)
  intro pair _ other equal
  dsimp only
  rw [equal]
  exact .refl _

namespace Config

/-! ### What is read -/

/-- In every table of a configuration each key stands once. -/
structure Filed (config : Config) : Prop where
  searchDescriptors : Pairs.Filed config.searchDescriptors
  attributeMap : NameTable.Filed config.attributeMap
  attributeOverrides : NameTable.Filed config.attributeOverrides
  attributeDefaults : NameTable.Filed config.attributeDefaults

def tables (config : Config) :
    List (Database × List Descriptor) × NameTable × NameTable × NameTable :=
  (config.searchDescriptors, config.attributeMap, config.attributeOverrides,
    config.attributeDefaults)

variable {c d : Config}

theorem Filed.of_tables (filed : c.Filed) (equal : d.tables = c.tables) : d.Filed := by
  simp only [tables, Prod.mk.injEq] at equal
  obtain ⟨descriptors, map, overrides, defaults⟩ := equal
  constructor
  · exact descriptors ▸ filed.searchDescriptors
  · exact map ▸ filed.attributeMap
  · exact overrides ▸ filed.attributeOverrides
  · exact defaults ▸ filed.attributeDefaults

theorem keeps_filed {α : Type} {name : String} {decode : Decoder α} {set : Config → α → Config}
    (apart : ∀ c a, (set c a).tables = c.tables) : (field name decode set).Keeps Filed :=
  field_keeps fun _ a c _ filed => filed.of_tables (apart c a)

theorem filed_of_decode {v : Json} (read : decode v = .ok c) : c.Filed := by
  apply record_keeps _ _ read
  · simp only [List.forall_mem_cons]
    -- In the order of the fields. All but four of them leave the tables as they are.
    refine ⟨.needed (keeps_filed ?_), .needed (keeps_filed ?_), keeps_filed ?_, keeps_filed ?_,
      keeps_filed ?_, keeps_filed ?_, keeps_filed ?_, keeps_filed ?_, keeps_filed ?_,
      keeps_filed ?_, keeps_filed ?_, keeps_filed ?_, keeps_filed ?_, keeps_filed ?_,
      field_keeps ?descriptors, field_keeps ?map, field_keeps ?overrides, field_keeps ?defaults,
      keeps_filed ?_, nofun⟩
    case descriptors =>
      intro _ _ before read filed
      exact { filed with searchDescriptors := (dictionary_read read).1 }
    case map =>
      intro _ _ before read filed
      exact { filed with attributeMap := NameTable.filed_of_decode read }
    case overrides =>
      intro _ _ before read filed
      exact { filed with attributeOverrides := NameTable.filed_of_decode read }
    case defaults =>
      intro _ _ before read filed
      exact { filed with attributeDefaults := NameTable.filed_of_decode read }
    all_goals exact fun _ _ => rfl
  · have none : NameTable.Filed [] := ⟨.nil, nofun⟩
    exact ⟨.nil, none, none, none⟩

/-! ### What is written -/

def withoutPasswords (config : Config) : Config :=
  { config with
    credentials := config.credentials.withoutPassword
    rootCredentials := config.rootCredentials.map Credentials.withoutPassword }

theorem Filed.withoutPasswords (filed : c.Filed) : c.withoutPasswords.Filed :=
  filed.of_tables rfl

/-- A password is never written. -/
theorem toJson_withoutPasswords (config : Config) :
    config.withoutPasswords.toJson = config.toJson := by
  have root : optionalMember "root_credentials" Credentials.toJson
      (config.rootCredentials.map Credentials.withoutPassword) =
        optionalMember "root_credentials" Credentials.toJson config.rootCredentials := by
    cases config.rootCredentials <;> rfl
  simp only [toJson, withoutPasswords, root]
  rfl

theorem decode_toJson (filed : c.Filed) : decode c.toJson = .ok c.withoutPasswords := by
  have descriptors := decode_descriptorsToJson filed.searchDescriptors
  have map := NameTable.decode_toJson filed.attributeMap
  have overrides := NameTable.decode_toJson filed.attributeOverrides
  have defaults := NameTable.decode_toJson filed.attributeDefaults
  have texts (texts : List String) : list text (ofList (texts.map .string)) = .ok texts :=
    list_ofList fun _ _ => rfl
  have root (credentials : Credentials) : Decoder.optional Credentials.decode credentials.toJson =
      .ok (some credentials.withoutPassword) := by
    have read := credentials.decode_toJson
    rw [Credentials.toJson] at read ⊢
    rw [optional_ofMembers, read, map_ok]
  unfold descriptorsToJson at descriptors
  -- Members come in the order of the fields, but for the one that may be left out.
  cases rooted : c.rootCredentials <;>
    simp [decode, toJson, withoutPasswords, rooted, recordFrom, field, Field.needed,
      optionalMember, pure, Except.pure, Scope.toJson, Deref.toJson, texts, root, descriptors, map,
      overrides, defaults, Credentials.decode_toJson, Tls.decode_toJson, Flags.decode_toJson,
      Failover.Policy.decode_toJson]

theorem sound_optionalMember {α : Type} {name : String} {encode : α → Json} {value : Option α} :
    (∀ member ∈ optionalMember name encode value, Sound member.2) ↔
      ∀ a ∈ value, Sound (encode a) := by
  cases value <;> simp [optionalMember]

theorem sound_toJson (config : Config) : Sound config.toJson := by
  simp only [toJson, Scope.toJson, Deref.toJson, Credentials.toJson, Tls.toJson,
    Failover.Policy.toJson, Flags.toJson, NameTable.toJson, Descriptor.toJson, sound_ofMembers,
    sound_ofList, sound_optionalMember, sound_string, sound_bool, sound_uint8, sound_uint32,
    sound_uint64, List.forall_mem_append, List.forall_mem_cons, List.forall_mem_map,
    List.not_mem_nil, false_imp_iff, implies_true, and_true]

/-! ### Order -/

/-- One configuration, with its tables in any order. -/
structure Same (c d : Config) : Prop where
  plain : c = { d with
    searchDescriptors := c.searchDescriptors
    attributeMap := c.attributeMap
    attributeOverrides := c.attributeOverrides
    attributeDefaults := c.attributeDefaults }
  searchDescriptors : c.searchDescriptors.Perm d.searchDescriptors
  attributeMap : NameTable.Same c.attributeMap d.attributeMap
  attributeOverrides : NameTable.Same c.attributeOverrides d.attributeOverrides
  attributeDefaults : NameTable.Same c.attributeDefaults d.attributeDefaults

theorem Same.refl (config : Config) : Same config config where
  plain := rfl
  searchDescriptors := .refl _
  attributeMap := .of_perm List.Perm.refl (.refl _)
  attributeOverrides := .of_perm List.Perm.refl (.refl _)
  attributeDefaults := .of_perm List.Perm.refl (.refl _)

theorem Same.withoutPasswords (same : Same c d) :
    Same c.withoutPasswords d.withoutPasswords := by
  obtain ⟨plain, descriptors, map, overrides, defaults⟩ := same
  have plain := congrArg Config.withoutPasswords plain
  exact ⟨plain, descriptors, map, overrides, defaults⟩

theorem Same.filed (same : Same c d) (filed : d.Filed) : c.Filed where
  searchDescriptors := Pairs.filed_of_perm same.searchDescriptors filed.searchDescriptors
  attributeMap := same.attributeMap.filed filed.attributeMap
  attributeOverrides := same.attributeOverrides.filed filed.attributeOverrides
  attributeDefaults := same.attributeDefaults.filed filed.attributeDefaults

/-- No bound is on a table. -/
theorem Same.violations (same : Same c d) : c.violations = d.violations := by
  rw [same.plain]
  rfl

theorem Same.alike (same : Same c d) (filed : c.Filed) : Alike c.toJson d.toJson := by
  have descriptors := alike_descriptorsToJson filed.searchDescriptors same.searchDescriptors
  have map := same.attributeMap.alike filed.attributeMap
  have overrides := same.attributeOverrides.alike filed.attributeOverrides
  have defaults := same.attributeDefaults.alike filed.attributeDefaults
  unfold descriptorsToJson at descriptors
  -- Every other member is the same value on both sides.
  rw [same.plain]
  cases rooted : d.rootCredentials <;> apply alike_of_forall₂
  case none.filed | some.filed => simp [Pairs.Filed, optionalMember]
  case none.each | some.each =>
    simpa [rooted, optionalMember, Alike.refl, map, overrides, defaults] using descriptors

/-! ### Texts -/

theorem validated_eq_ok_iff : c.validated = .ok d ↔ c = d ∧ d.violations = [] := by
  unfold validated
  constructor
  · intro accepted
    split at accepted
    · next kept =>
      cases accepted
      exact ⟨rfl, kept⟩
    · cases accepted
  · rintro ⟨rfl, kept⟩
    rw [kept]

theorem ofText_eq_ok_iff {contents : String} :
    ofText contents = .ok c ↔ decodeText decode contents = .ok c ∧ c.violations = [] := by
  simp only [ofText, bind_eq_ok_iff, mapError_eq_ok_iff, validated_eq_ok_iff]
  constructor
  · rintro ⟨found, read, rfl, kept⟩
    exact ⟨read, kept⟩
  · rintro ⟨read, kept⟩
    exact ⟨c, read, rfl, kept⟩

theorem filed_of_ofText {contents : String} (loaded : ofText contents = .ok c) : c.Filed := by
  obtain ⟨read, -⟩ := ofText_eq_ok_iff.mp loaded
  obtain ⟨v, decoded⟩ := decode_of_decodeText read
  exact filed_of_decode decoded

theorem ofText_print (filed : c.Filed) (kept : c.violations = []) :
    ofText (String.ofList c.toJson.print) = .ok c.withoutPasswords := by
  apply ofText_eq_ok_iff.mpr
  constructor
  · apply decodeText_of_read
    · rw [String.toList_ofList]
      exact read_print c.sound_toJson
    · exact decode_toJson filed
  · exact kept

/-- What was loaded is loaded again from what is stored of it, but for the passwords, whatever the
    order in which its tables are written down. And what differs from it in the passwords only is
    stored as the same value. -/
theorem ofText_stored {contents : String} (loaded : ofText contents = .ok c) :
    ofText (String.ofList c.toJson.print) = .ok c.withoutPasswords ∧
    (∀ d, Same d c → ofText (String.ofList d.toJson.print) = .ok d.withoutPasswords ∧
      Same d.withoutPasswords c.withoutPasswords) ∧
    ∀ other d, ofText other = .ok d → Same d.withoutPasswords c.withoutPasswords →
      Alike d.toJson c.toJson := by
  have filed := filed_of_ofText loaded
  have kept := (ofText_eq_ok_iff.mp loaded).2
  refine ⟨ofText_print filed kept, ?_, ?_⟩
  · intro d same
    constructor
    -- Neither a bound nor the absence of double keys depends on the order.
    · exact ofText_print (same.filed filed) (same.violations.trans kept)
    · exact same.withoutPasswords
  · intro other d read same
    -- What is written of a configuration is what is written of it without its passwords.
    have alike := same.alike (filed_of_ofText read).withoutPasswords
    rwa [toJson_withoutPasswords, toJson_withoutPasswords] at alike

/-- An alias of a scope, a database that comes twice and a password. -/
def proxyText (password : String) : String :=
  "\x7b\"base\":\"dc=x\",\"uris\":[\"ldap://a\"],\"scope\":\"sub\"," ++
    "\"credentials\":\x7b\"bind_password\":\"" ++ password ++ "\",\"bind_dn\":\"cn=p\"\x7d," ++
    "\"attribute_map\":\x7b\"passwd\":\x7b\"uid\":\"cn\"\x7d,\"none\":\x7b\x7d," ++
    "\"passwd\":\x7b\"uid\":\"sn\"\x7d\x7d\x7d"

def proxy (password : String) : Config where
  uris := ["ldap://a"]
  base := "dc=x"
  credentials := ⟨some "cn=p", some password⟩
  attributeMap := [(.passwd, [("uid", "sn")]), (.none, [])]

theorem ofText_stored_proxy :
    ofText (proxyText "secret") = .ok (proxy "secret") ∧
    ofText (String.ofList (proxy "secret").toJson.print) =
      .ok { proxy "secret" with credentials := ⟨some "cn=p", none⟩ } ∧
    Alike (proxy "other").toJson (proxy "secret").toJson := by
  have loaded : ofText (proxyText "secret") = .ok (proxy "secret") := by decide +kernel
  have other : ofText (proxyText "other") = .ok (proxy "other") := by decide +kernel
  obtain ⟨again, _, alike⟩ := ofText_stored loaded
  exact ⟨loaded, again, alike _ _ other (.refl _)⟩

end Config

end NameService
