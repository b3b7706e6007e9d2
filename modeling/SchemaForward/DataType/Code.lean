import SchemaForward.Json.Basic

/-!
# Type codes

The vendor-neutral types a model may give to a column. Their order is the order in which a type
map lists its native types.
-/

namespace SchemaForward

/-- A vendor-neutral data type. -/
inductive TypeCode where
  | bit
  | boolean
  | tinyInt
  | smallInt
  | integer
  | bigInt
  | real
  | float
  | double
  | numeric
  | decimal
  | char
  | varChar
  | longVarChar
  | clob
  | date
  | time
  | timestamp
  | binary
  | varBinary
  | longVarBinary
  | blob
  | other
  deriving DecidableEq, Repr, Inhabited

namespace TypeCode

/-- Every type code, in order. -/
def all : List TypeCode :=
  [.bit, .boolean, .tinyInt, .smallInt, .integer, .bigInt, .real, .float, .double, .numeric,
    .decimal, .char, .varChar, .longVarChar, .clob, .date, .time, .timestamp, .binary, .varBinary,
    .longVarBinary, .blob, .other]

/-- The name of a type code. -/
def name : TypeCode → String
  | .bit => "BIT"
  | .boolean => "BOOLEAN"
  | .tinyInt => "TINYINT"
  | .smallInt => "SMALLINT"
  | .integer => "INTEGER"
  | .bigInt => "BIGINT"
  | .real => "REAL"
  | .float => "FLOAT"
  | .double => "DOUBLE"
  | .numeric => "NUMERIC"
  | .decimal => "DECIMAL"
  | .char => "CHAR"
  | .varChar => "VARCHAR"
  | .longVarChar => "LONGVARCHAR"
  | .clob => "CLOB"
  | .date => "DATE"
  | .time => "TIME"
  | .timestamp => "TIMESTAMP"
  | .binary => "BINARY"
  | .varBinary => "VARBINARY"
  | .longVarBinary => "LONGVARBINARY"
  | .blob => "BLOB"
  | .other => "OTHER"

/-- No type code is left out of the list. -/
theorem mem_all (code : TypeCode) : code ∈ all := by
  cases code <;> decide

/-- A type code as its name. -/
def toJson (code : TypeCode) : Json :=
  .text code.name

/-- The type code with a given name. -/
def ofJson? : Json → Option TypeCode :=
  Json.named? (all.map fun code => (code.name, code))

end TypeCode

end SchemaForward
