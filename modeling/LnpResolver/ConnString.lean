import Mathlib.Data.List.Nodup
import LnpResolver.ConnInfo
import LnpResolver.Decimals

/-!
The connection string of the database. The fields of the configuration are written
between keywords as they are, with no quotes and no escapes, and the result is passed
as a C string to libpq.
-/

namespace LnpResolver.ConnString

open PackedBytes RequestWire JsonItems ConnInfo Decimals

/-- `cfg.db`. Its strings come from C strings, so they hold no NUL. -/
structure DbCfg where
  host : Bytes
  user : Bytes
  pass : Bytes
  database : Bytes
  port : UInt32
  timeout : UInt32
  noNul : ∀ text ∈ [host, user, pass, database], 0 ∉ text

def DbCfg.getConnString (db : DbCfg) : Bytes :=
  bytesOf "host = " ++ db.host ++
    bytesOf " port = " ++ decimal db.port.toNat ++
    bytesOf " user = " ++ db.user ++
    bytesOf " dbname = " ++ db.database ++
    bytesOf " password = " ++ db.pass ++
    bytesOf " connect_timeout  = " ++ decimal db.timeout.toNat

/-- The keywords that are meant to be set, with their values. -/
def DbCfg.options (db : DbCfg) : List Setting :=
  [(bytesOf "host", db.host), (bytesOf "port", decimal db.port.toNat), (bytesOf "user", db.user),
    (bytesOf "dbname", db.database), (bytesOf "password", db.pass),
    (bytesOf "connect_timeout", decimal db.timeout.toNat)]

/-- libpq accepts the connection string and ends up with these keywords, these values
for them, and no other keyword. -/
def DbCfg.RoundTrip (db : DbCfg) : Prop :=
  ∃ settings, parse (cString db.getConnString) = some settings ∧
    ∀ keyword value, assigned settings keyword = some value ↔ (keyword, value) ∈ db.options

/-- Every string of the configuration can stand without quotes and escapes. -/
def DbCfg.AllPlain (db : DbCfg) : Prop :=
  Plain db.host ∧ Plain db.user ∧ Plain db.database ∧ Plain db.pass

theorem decimal_byte {value : Nat} {byte : UInt8} (member : byte ∈ decimal value) :
    CStrings.isspace byte = false ∧ byte ≠ 0 ∧ byte ≠ 39 ∧ byte ≠ 61 ∧ byte ≠ 92 := by
  have digit := decimal_isdigit value byte member
  refine ⟨(CStrings.isspace_of_isdigit digit).1, ?_, ?_, ?_, ?_⟩ <;> rintro rfl <;>
    exact absurd digit (by decide)

theorem plain_decimal (value : Nat) : Plain (decimal value) := by
  refine ⟨(decimal_digits value).1, ?_, ?_⟩
  · intro byte member
    have known := decimal_byte member
    exact ⟨known.1, known.2.2.2.2⟩
  · intro first
    exact (decimal_byte (List.mem_of_mem_head? first)).2.2.1 rfl

/-! What the fields of a configuration are, between the texts around them. -/

/-- A setting as it is written, with the blanks before the equals sign. -/
def written (key blanks value rest : Bytes) : Bytes :=
  key ++ blanks ++ 61 :: ([32] ++ value ++ rest)

theorem getConnString_written (db : DbCfg) : db.getConnString =
    written (bytesOf "host") [32] db.host (32 ::
    written (bytesOf "port") [32] (decimal db.port.toNat) (32 ::
    written (bytesOf "user") [32] db.user (32 ::
    written (bytesOf "dbname") [32] db.database (32 ::
    written (bytesOf "password") [32] db.pass (32 ::
    written (bytesOf "connect_timeout") [32, 32] (decimal db.timeout.toNat) []))))) := by
  have host : bytesOf "host = " = bytesOf "host" ++ [32, 61, 32] := by decide
  have port : bytesOf " port = " = 32 :: (bytesOf "port" ++ [32, 61, 32]) := by decide
  have user : bytesOf " user = " = 32 :: (bytesOf "user" ++ [32, 61, 32]) := by decide
  have dbname : bytesOf " dbname = " = 32 :: (bytesOf "dbname" ++ [32, 61, 32]) := by decide
  have password : bytesOf " password = " = 32 :: (bytesOf "password" ++ [32, 61, 32]) := by decide
  have timeout : bytesOf " connect_timeout  = " =
      32 :: (bytesOf "connect_timeout" ++ [32, 32, 61, 32]) := by decide
  rw [DbCfg.getConnString, host, port, user, dbname, password, timeout]
  simp [written]

theorem scan_written {key blanks value : Bytes} (keyword : Keyword key)
    (blank : ∀ byte ∈ blanks, byte = 32) (plain : Plain value) (rest : Bytes) :
    scan .gap (written key blanks value rest) = scan (.bare key value) rest := by
  apply scan_setting keyword _ _ plain
  · intro byte member
    rw [blank byte member]
    decide
  · intro byte member
    rw [List.mem_singleton.mp member]
    decide

theorem options_different (db : DbCfg) : (db.options.map Prod.fst).Nodup := by
  change [bytesOf "host", bytesOf "port", bytesOf "user", bytesOf "dbname", bytesOf "password",
    bytesOf "connect_timeout"].Nodup
  decide

theorem keywords : Keyword (bytesOf "host") ∧ Keyword (bytesOf "port") ∧
    Keyword (bytesOf "user") ∧ Keyword (bytesOf "dbname") ∧ Keyword (bytesOf "password") ∧
    Keyword (bytesOf "connect_timeout") := by
  decide

theorem parse_getConnString {db : DbCfg} (plain : db.AllPlain) :
    ConnInfo.parse db.getConnString = some db.options := by
  obtain ⟨host, user, database, pass⟩ := plain
  obtain ⟨hostKey, portKey, userKey, dbnameKey, passKey, timeoutKey⟩ := keywords
  have one : ∀ byte ∈ ([32] : Bytes), byte = 32 := by simp
  have two : ∀ byte ∈ ([32, 32] : Bytes), byte = 32 := by simp
  rw [ConnInfo.parse, getConnString_written, scan_written hostKey one host, scan_blank,
    scan_written portKey one (plain_decimal _), scan_blank, scan_written userKey one user,
    scan_blank, scan_written dbnameKey one database, scan_blank, scan_written passKey one pass,
    scan_blank, scan_written timeoutKey two (plain_decimal _)]
  rfl

/-! Quotes and backslashes come from the four strings only. -/

theorem decimal_count {byte : UInt8} (special : byte = 39 ∨ byte = 92) (value : Nat) :
    (decimal value).count byte = 0 := by
  apply List.count_eq_zero.mpr
  intro member
  have known := decimal_byte member
  rcases special with rfl | rfl
  · exact known.2.2.1 rfl
  · exact known.2.2.2.2 rfl

theorem getConnString_count {byte : UInt8} (special : byte = 39 ∨ byte = 92) (db : DbCfg) :
    db.getConnString.count byte = weight byte db.options := by
  have constants : ∀ text ∈ ["host = ", " port = ", " user = ", " dbname = ", " password = ",
      " connect_timeout  = "], (bytesOf text).count byte = 0 := by
    rcases special with rfl | rfl <;> decide
  simp only [List.forall_mem_cons, List.not_mem_nil, false_implies, implies_true] at constants
  obtain ⟨host, port, user, dbname, password, timeout, -⟩ := constants
  simp only [DbCfg.getConnString, DbCfg.options, List.count_append, weight_cons, weight_nil,
    decimal_count special, host, port, user, dbname, password, timeout]
  omega

theorem cString_getConnString (db : DbCfg) : cString db.getConnString = db.getConnString := by
  apply cString_eq_self
  have constants : ∀ text ∈ ["host = ", " port = ", " user = ", " dbname = ", " password = ",
      " connect_timeout  = "], 0 ∉ bytesOf text := by
    decide
  have digits : ∀ value : Nat, 0 ∉ decimal value :=
    fun value member => (decimal_byte member).2.1 rfl
  have fields := db.noNul
  simp only [List.forall_mem_cons, List.not_mem_nil, false_implies, implies_true]
    at constants fields
  simp only [DbCfg.getConnString, List.mem_append, not_or]
  simp [constants, fields, digits]

theorem getConnString_ends (db : DbCfg) :
    ∀ byte ∈ db.getConnString.getLast?, CStrings.isspace byte = false ∧ byte ≠ 61 := by
  intro byte last
  have digit : byte ∈ decimal db.timeout.toNat := by
    rw [DbCfg.getConnString,
      List.getLast?_append_of_ne_nil _ (decimal_digits db.timeout.toNat).1] at last
    exact List.mem_of_getLast? last
  have known := decimal_byte digit
  exact ⟨known.1, known.2.2.2.1⟩

theorem roundTrip_of_plain {db : DbCfg} (plain : db.AllPlain) : db.RoundTrip := by
  refine ⟨db.options, ?_, assigned_iff_mem (options_different db)⟩
  rw [cString_getConnString]
  exact parse_getConnString plain

theorem plain_of_roundTrip {db : DbCfg} (roundTrip : db.RoundTrip) : db.AllPlain := by
  obtain ⟨settings, read, same⟩ := roundTrip
  rw [cString_getConnString] at read
  have plain := parse_plain read (getConnString_ends db)
    (List.Nodup.of_map _ (options_different db))
    (fun option member => (same option.1 option.2).mpr member)
    fun byte special => Nat.le_of_eq (getConnString_count special db)
  simp only [DbCfg.options, List.forall_mem_cons] at plain
  exact ⟨plain.1, plain.2.2.1, plain.2.2.2.1, plain.2.2.2.2.1⟩

/-- The connection string reads back as the configuration it was written from exactly
when none of its strings needs quotes. -/
theorem roundTrip_iff_allPlain (db : DbCfg) : db.RoundTrip ↔ db.AllPlain :=
  ⟨plain_of_roundTrip, roundTrip_of_plain⟩

/-- A configuration without a password. -/
def noPassword : DbCfg where
  host := bytesOf "127.0.0.1"
  user := bytesOf "lnp_resolver"
  pass := []
  database := bytesOf "yeti"
  port := 5432
  timeout := 10
  noNul := by decide

theorem noPassword_settings :
    ConnInfo.parse (cString noPassword.getConnString) =
      some [(bytesOf "host", bytesOf "127.0.0.1"), (bytesOf "port", bytesOf "5432"),
        (bytesOf "user", bytesOf "lnp_resolver"), (bytesOf "dbname", bytesOf "yeti"),
        (bytesOf "password", bytesOf "connect_timeout"), ([], bytesOf "10")] := by
  decide +kernel

/-- The next keyword becomes the password, and the timeout goes to an empty keyword. -/
theorem noPassword_not_roundTrip : ¬ ∀ db : DbCfg, db.RoundTrip := by
  intro all
  obtain ⟨settings, read, same⟩ := all noPassword
  rw [noPassword_settings] at read
  cases read
  have lost := (same (bytesOf "password") []).mpr (by decide)
  revert lost
  decide

end LnpResolver.ConnString
