/-!
# Column types and scalar kinds

A column's declared type decides its scalar kind, and the kind decides how filter values are read
for it and which of them suit it.
-/

namespace EntitySearch

/-- The declared type of a column. -/
inductive ColumnType where
  | char | string | text | blob
  | tinyInteger | smallInteger | integer | bigInteger
  | tinyUnsigned | smallUnsigned | unsigned | bigUnsigned
  | float | double | decimal | money
  | boolean
  | date | dateTime | timestamp | timestampWithTimeZone | time | year | interval
  | binary | varBinary | bit | varBit
  | json | jsonBinary | uuid
  | custom | enum | array | vector
  | cidr | inet | macAddr | lTree
deriving DecidableEq

/-- The kinds of values that filters tell apart. -/
inductive ScalarKind where
  | string
  /-- Integers of at most 32 bits. -/
  | int
  /-- Integers of 64 bits. -/
  | long
  | float
  | decimal
  | bool
  | date
  | dateTime
  /-- Date-times with a time zone. -/
  | timestamp
  | uuid
  | other
deriving DecidableEq

/-- The kind of the values of a column. An unsigned 32-bit column needs 64 bits with a sign. -/
def ColumnType.kind : ColumnType → ScalarKind
  | char | string | text | enum => .string
  | tinyInteger | smallInteger | integer | tinyUnsigned | smallUnsigned => .int
  | bigInteger | unsigned | bigUnsigned => .long
  | float | double => .float
  | decimal | money => .decimal
  | boolean => .bool
  | date => .date
  | dateTime => .dateTime
  | timestamp | timestampWithTimeZone => .timestamp
  | uuid => .uuid
  | _ => .other

/-- Whether values of a kind are text as they stand. -/
def ScalarKind.isTextual : ScalarKind → Bool
  | string => true
  | _ => false

end EntitySearch
