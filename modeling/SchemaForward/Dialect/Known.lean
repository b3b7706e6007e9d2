import SchemaForward.Dialect.Basic

/-!
# Known dialects

Seven dialects as data. A row of a type table says how literals of the type are written and whether
it takes a length, or a precision and a scale. Character types, dates and times are written between
quotes.
-/

namespace SchemaForward.Dialect.Known

/-- A type whose literals stand as they are. -/
def bare (code : TypeCode) (name : String) (maxPrecision : UInt32) : NativeType :=
  .plain name code maxPrecision

/-- A type whose literals are quoted. -/
def text (code : TypeCode) (name : String) (maxPrecision : UInt32) : NativeType :=
  (bare code name maxPrecision).quoted

/-- A type with a length. -/
def sized (code : TypeCode) (name : String) (maxPrecision : UInt32) : NativeType :=
  (bare code name maxPrecision).withPrecision false

/-- A type with a length whose literals are quoted. -/
def sizedText (code : TypeCode) (name : String) (maxPrecision : UInt32) : NativeType :=
  (text code name maxPrecision).withPrecision false

/-- A type with a precision and a scale. -/
def exact (code : TypeCode) (name : String) (maxPrecision : UInt32) : NativeType :=
  (bare code name maxPrecision).withPrecision true

/-- The length of a large object. -/
def largeObject : UInt32 := 2147483647

/-- The types of the generic dialect. -/
def genericTypes : List NativeType :=
  [
    bare .bigInt "BIGINT" 19,
    sized .binary "BINARY" 2000,
    bare .bit "BIT" 1,
    bare .blob "BLOB" largeObject,
    bare .boolean "BOOLEAN" 1,
    sizedText .char "CHAR" 2000,
    text .clob "CLOB" largeObject,
    text .date "DATE" 10,
    exact .decimal "DECIMAL" 38,
    bare .double "DOUBLE PRECISION" 38,
    sized .float "FLOAT" 38,
    bare .integer "INTEGER" 10,
    bare .longVarBinary "BLOB" largeObject,
    text .longVarChar "CLOB" largeObject,
    exact .numeric "NUMERIC" 38,
    bare .real "REAL" 38,
    bare .smallInt "SMALLINT" 5,
    text .time "TIME" 8,
    text .timestamp "TIMESTAMP" 26,
    bare .tinyInt "SMALLINT" 5,
    sized .varBinary "VARBINARY" 2000,
    sizedText .varChar "VARCHAR" 4000]

/-- The types of the PostgreSQL dialect. -/
def postgresTypes : List NativeType :=
  [
    bare .bigInt "BIGINT" 19,
    bare .binary "BYTEA" largeObject,
    sized .bit "BIT" 83886080,
    bare .blob "BYTEA" largeObject,
    bare .boolean "BOOLEAN" 1,
    sizedText .char "CHAR" 10485760,
    text .clob "TEXT" largeObject,
    text .date "DATE" 10,
    exact .decimal "NUMERIC" 1000,
    bare .double "DOUBLE PRECISION" 53,
    sized .float "FLOAT" 53,
    bare .integer "INTEGER" 10,
    bare .longVarBinary "BYTEA" largeObject,
    text .longVarChar "TEXT" largeObject,
    exact .numeric "NUMERIC" 1000,
    bare .real "REAL" 24,
    bare .smallInt "SMALLINT" 5,
    text .time "TIME" 15,
    text .timestamp "TIMESTAMP" 26,
    bare .tinyInt "SMALLINT" 5,
    bare .varBinary "BYTEA" largeObject,
    sizedText .varChar "VARCHAR" 10485760]

/-- The types of the Oracle dialect. -/
def oracleTypes : List NativeType :=
  [
    bare .bigInt "NUMBER" 38,
    sized .binary "RAW" 2000,
    sized .bit "NUMBER" 1,
    bare .blob "BLOB" largeObject,
    sized .boolean "NUMBER" 1,
    sizedText .char "CHAR" 2000,
    text .clob "CLOB" largeObject,
    text .date "DATE" 10,
    exact .decimal "NUMBER" 38,
    bare .double "BINARY_DOUBLE" 53,
    sized .float "FLOAT" 126,
    bare .integer "INTEGER" 38,
    bare .longVarBinary "BLOB" largeObject,
    text .longVarChar "CLOB" largeObject,
    exact .numeric "NUMBER" 38,
    bare .real "BINARY_FLOAT" 24,
    bare .smallInt "SMALLINT" 38,
    text .time "DATE" 10,
    text .timestamp "TIMESTAMP" 9,
    bare .tinyInt "SMALLINT" 38,
    sized .varBinary "RAW" 2000,
    sizedText .varChar "VARCHAR2" 4000]

/-- The types of the SQL Server dialect. -/
def sqlServerTypes : List NativeType :=
  [
    bare .bigInt "BIGINT" 19,
    sized .binary "BINARY" 8000,
    bare .bit "BIT" 1,
    bare .blob "IMAGE" largeObject,
    bare .boolean "BIT" 1,
    sizedText .char "CHAR" 8000,
    text .clob "TEXT" largeObject,
    text .date "DATETIME" 23,
    exact .decimal "DECIMAL" 38,
    bare .double "FLOAT" 53,
    sized .float "FLOAT" 53,
    bare .integer "INT" 10,
    bare .longVarBinary "IMAGE" largeObject,
    text .longVarChar "TEXT" largeObject,
    exact .numeric "NUMERIC" 38,
    bare .real "REAL" 24,
    bare .smallInt "SMALLINT" 5,
    text .time "DATETIME" 23,
    text .timestamp "DATETIME" 23,
    bare .tinyInt "TINYINT" 3,
    sized .varBinary "VARBINARY" 8000,
    sizedText .varChar "VARCHAR" 8000]

/-- The types of the DB2 dialect. -/
def db2Types : List NativeType :=
  [
    bare .bigInt "BIGINT" 38,
    sized .binary "BLOB" largeObject,
    sized .bit "DECIMAL" 1,
    sized .blob "BLOB" largeObject,
    sizedText .char "CHAR" 254,
    sizedText .clob "CLOB" largeObject,
    text .date "DATE" 10,
    exact .decimal "DECIMAL" 31,
    sized .double "DOUBLE" 53,
    sized .float "FLOAT" 53,
    bare .integer "INTEGER" 10,
    sized .longVarBinary "BLOB" largeObject,
    sizedText .longVarChar "CLOB" largeObject,
    exact .numeric "DECIMAL" 31,
    sized .real "FLOAT" 31,
    bare .smallInt "SMALLINT" 5,
    text .time "TIME" 8,
    text .timestamp "TIMESTAMP" 26,
    bare .tinyInt "SMALLINT" 5,
    sized .varBinary "BLOB" largeObject,
    sizedText .varChar "VARCHAR" 32672]

/-- The types of the MySQL dialect. -/
def mySqlTypes : List NativeType :=
  [
    bare .bigInt "BIGINT" 20,
    sized .binary "BINARY" 255,
    sized .bit "BIT" 64,
    bare .blob "LONGBLOB" largeObject,
    bare .boolean "BOOLEAN" 1,
    sizedText .char "CHAR" 255,
    text .clob "LONGTEXT" largeObject,
    text .date "DATE" 10,
    exact .decimal "DECIMAL" 65,
    bare .double "DOUBLE" 53,
    sized .float "FLOAT" 53,
    bare .integer "INT" 11,
    bare .longVarBinary "LONGBLOB" largeObject,
    text .longVarChar "LONGTEXT" largeObject,
    exact .numeric "DECIMAL" 65,
    bare .real "REAL" 24,
    bare .smallInt "SMALLINT" 6,
    text .time "TIME" 8,
    text .timestamp "DATETIME" 19,
    bare .tinyInt "TINYINT" 4,
    sized .varBinary "VARBINARY" 65535,
    sizedText .varChar "VARCHAR" 65535]

/-- The types of the SQLite dialect. -/
def sqliteTypes : List NativeType :=
  [
    bare .bigInt "INTEGER" 19,
    bare .binary "BLOB" largeObject,
    bare .bit "INTEGER" 1,
    bare .blob "BLOB" largeObject,
    bare .boolean "INTEGER" 1,
    text .char "TEXT" largeObject,
    text .clob "TEXT" largeObject,
    text .date "TEXT" 10,
    exact .decimal "NUMERIC" 38,
    bare .double "REAL" 53,
    bare .float "REAL" 53,
    bare .integer "INTEGER" 10,
    bare .longVarBinary "BLOB" largeObject,
    text .longVarChar "TEXT" largeObject,
    exact .numeric "NUMERIC" 38,
    bare .real "REAL" 24,
    bare .smallInt "INTEGER" 5,
    text .time "TEXT" 8,
    text .timestamp "TEXT" 26,
    bare .tinyInt "INTEGER" 3,
    bare .varBinary "BLOB" largeObject,
    text .varChar "TEXT" largeObject]

/-- Words that no dialect accepts as a name. -/
def commonReserved : List String :=
  ["ADD", "ALL", "ALTER", "AND", "AS", "BETWEEN", "BY", "CHECK", "COLUMN", "CONSTRAINT",
    "CREATE", "DEFAULT", "DELETE", "DISTINCT", "DROP", "FOREIGN", "FROM", "GRANT", "GROUP",
    "HAVING", "IN", "INDEX", "INSERT", "INTO", "IS", "KEY", "NOT", "NULL", "ON", "OR", "ORDER",
    "PRIMARY", "REFERENCES", "SELECT", "SET", "TABLE", "TO", "UNION", "UNIQUE", "UPDATE", "USER",
    "VALUES", "VIEW", "WHERE"]

/-- Further words that Oracle reserves. -/
def oracleReserved : List String :=
  ["ACCESS", "AUDIT", "COMMENT", "DATE", "FILE", "LEVEL", "LONG", "MODE", "NUMBER", "RAW",
    "RESOURCE", "ROW", "ROWID", "ROWNUM", "SESSION", "SIZE", "SYNONYM", "UID", "VARCHAR2"]

/-- A dialect close to the standard. -/
def generic : Dialect where
  name := "generic"
  types := .ofList genericTypes
  identifiers :=
    { reservedWords := commonReserved }
  templates := {}

/-- PostgreSQL folds to lower case, and its indexes share the names of tables. -/
def postgres : Dialect where
  name := "postgresql"
  types := .ofList postgresTypes
  identifiers :=
    { maxLength := some 63,
      letterCase := .lower,
      extraCharacters := "_$",
      reservedWords :=
        commonReserved ++ ["ANALYSE", "ANALYZE", "LIMIT", "OFFSET", "RETURNING"],
      indexesShareTables := true }
  templates :=
    { hasComments := true }

/-- Oracle names are short, and its foreign keys have no action on update. -/
def oracle : Dialect where
  name := "oracle"
  types := .ofList oracleTypes
  identifiers :=
    { maxLength := some 30,
      letterCase := .upper,
      extraCharacters := "_$#",
      reservedWords := commonReserved ++ oracleReserved }
  templates :=
    { hasComments := true,
      hasOnUpdate := false }

/-- SQL Server ends its statements with a line of their own. -/
def sqlServer : Dialect where
  name := "sqlserver"
  types := .ofList sqlServerTypes
  identifiers :=
    { maxLength := some 128,
      extraCharacters := "_@#$",
      reservedWords := commonReserved ++ ["IDENTITY", "TOP", "TRAN", "TRANSACTION"],
      caseInsensitive := true }
  templates :=
    { terminator := "\nGO",
      dropIndex := .onTable }

/-- DB2 folds to upper case, and its foreign keys have no action on update. -/
def db2 : Dialect where
  name := "db2"
  types := .ofList db2Types
  identifiers :=
    { maxLength := some 128,
      letterCase := .upper,
      reservedWords := commonReserved }
  templates :=
    { hasComments := true,
      hasOnUpdate := false }

/-- MySQL tells names apart by case and drops foreign keys by a word of its own. -/
def mySql : Dialect where
  name := "mysql"
  types := .ofList mySqlTypes
  identifiers :=
    { maxLength := some 64,
      extraCharacters := "_$",
      reservedWords := commonReserved ++ ["LIMIT", "RANGE", "READ", "WRITE"] }
  templates :=
    { dropIndex := .onTable,
      dropConstraintKeyword := "FOREIGN KEY" }

/-- SQLite keeps constraints inside its tables, and its indexes share the names of tables. -/
def sqlite : Dialect where
  name := "sqlite"
  types := .ofList sqliteTypes
  identifiers :=
    { reservedWords := commonReserved ++ ["AUTOINCREMENT", "PRAGMA", "VACUUM"],
      caseInsensitive := true,
      indexesShareTables := true }
  templates :=
    { addsConstraints := false }

end SchemaForward.Dialect.Known

namespace SchemaForward.Dialect

/-- The known dialects, in the order in which they are listed. -/
def known : List Dialect :=
  [Known.generic, Known.postgres, Known.oracle, Known.sqlServer, Known.db2,
    Known.mySql, Known.sqlite]

/-- Further names of known dialects. -/
def otherNames : List (String × Dialect) :=
  [("postgres", Known.postgres), ("mssql", Known.sqlServer)]

/-- The known dialect of a name, whatever its case. -/
def named? (name : String) : Option Dialect :=
  (known.map (fun dialect => (dialect.name, dialect)) ++ otherNames).lookup (Text.lower name)

end SchemaForward.Dialect
