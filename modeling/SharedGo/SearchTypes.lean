/-
This file has the data of a search: the types of fields, the requests, the paging
arithmetic, which is that of 64-bit integers, and the errors with their messages.
-/

import SharedGo.Sprintf
import SharedGo.Text

namespace SharedGo.Search

open SharedGo Text Fmt

/-! ### Fields -/

/-- The type of a field; any other integer is a type the package does not declare. -/
inductive FieldType where
  | string
  | uuid
  | int
  | bool
  | date
  | array
  | undeclared (code : Int64)
  deriving DecidableEq

/-- The cast after a bound parameter. -/
def FieldType.cast : FieldType → String
  | .uuid => "::uuid"
  | .date => "::timestamptz"
  | .int => "::bigint"
  | .bool => "::boolean"
  | _ => ""

def typeName : FieldType → String
  | .string => "string"
  | .uuid => "uuid string"
  | .int => "integer"
  | .bool => "boolean"
  | .date => "date"
  | .array => "array element"
  | .undeclared _ => "value"

/-- `%T`. -/
def goType : Dynamic → String
  | .nil => "<nil>"
  | .bool _ => "bool"
  | .float64 _ => "float64"
  | .int _ => "int"
  | .int32 _ => "int32"
  | .int64 _ => "int64"
  | .string _ => "string"
  | .time _ => "time.Time"
  | .strings _ => "[]string"
  | .array _ => "[]interface \x7b\x7d"
  | .object _ => "map[string]interface \x7b\x7d"
  | .other typeName => typeName

/-! ### Requests -/

structure SortField where
  field : String
  direction : String
  deriving DecidableEq, Repr

structure FilterParameter where
  field : String
  operator : String
  value : Dynamic

structure Pagination where
  pageSize : Int64
  pageNumber : Int64
  deriving DecidableEq

structure RequestBody where
  searchTerms : List String
  filters : List FilterParameter
  sortFields : List SortField
  pagination : Pagination

def defaultPageSize : Int64 := 10

def defaultMaxPageSize : Int64 := 100

/-- The page size under a maximum; a maximum that is not positive is the default one. -/
def Pagination.sizeWithMax (pagination : Pagination) (max : Int64) : Int64 :=
  let max := if max ≤ 0 then defaultMaxPageSize else max
  if pagination.pageSize ≤ 0 then (if defaultPageSize > max then max else defaultPageSize)
  else if pagination.pageSize > max then max
  else pagination.pageSize

def Pagination.number (pagination : Pagination) : Int64 :=
  if pagination.pageNumber ≤ 0 then 1 else pagination.pageNumber

/-- The offset of the page, which wraps around as the machine's integers do. -/
def Pagination.offsetWithMax (pagination : Pagination) (max : Int64) : Int64 :=
  (pagination.number - 1) * pagination.sizeWithMax max

/-- `%d`. -/
def formatInt (number : Int64) : String := toString number.toInt

/-! ### Errors -/

/-- The errors of a compilation. -/
inductive SearchError where
  | invalidField (field resource : String)
  | unsupportedOperator (field operator : String)
  | fieldNotSortable (field resource : String)
  | invalidValueType (field expected got : String)
  | badTemplate (field : String)
  | resolver (message : String)
  deriving DecidableEq, Repr

def SearchError.message [Formatting] : SearchError → String
  | .invalidField field resource =>
    "field " ++ Formatting.quote false false field ++ " is not a valid field for resource " ++
      Formatting.quote false false resource
  | .unsupportedOperator field operator =>
    "operator " ++ Formatting.quote false false operator ++ " is not supported for field " ++
      Formatting.quote false false field
  | .fieldNotSortable field resource =>
    "field " ++ Formatting.quote false false field ++ " is not sortable for resource " ++
      Formatting.quote false false resource
  | .invalidValueType field expected got =>
    "field " ++ Formatting.quote false false field ++ " expects " ++ expected ++ ", got " ++ got
  | .badTemplate field =>
    "search: SubqueryResolver template for " ++ Formatting.quote false false field ++
      " must contain exactly one %s"
  | .resolver message => message

end SharedGo.Search
