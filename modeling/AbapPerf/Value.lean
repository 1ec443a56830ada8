/-! Request data as it arrives: the shapes a JSON document can take. Whole numbers and
floating-point numbers stay apart, because adding a line number to them gives different kinds of
result. Each value has a kind, whose name the service writes into its error messages, and a truth
value, used where a missing or empty entry falls back to a default. A code unit arrives as a
record whose fields sit under fixed keys. An operation that refuses its input stops with a fault,
which names its cause. -/
namespace AbapPerf

/-- One piece of request data. A record keeps its fields in order of arrival. -/
inductive Value where
  | null
  | bool (b : Bool)
  | int (n : Int)
  | float (x : Float)
  | str (s : String)
  | list (items : List Value)
  | record (fields : List (String × Value))
  deriving Inhabited

inductive Value.Kind where
  | null
  | bool
  | int
  | float
  | str
  | list
  | record
  deriving DecidableEq, Repr

namespace Value

def kind : Value → Kind
  | .null => .null
  | .bool _ => .bool
  | .int _ => .int
  | .float _ => .float
  | .str _ => .str
  | .list _ => .list
  | .record _ => .record

def Kind.name : Kind → String
  | .null => "NoneType"
  | .bool => "bool"
  | .int => "int"
  | .float => "float"
  | .str => "str"
  | .list => "list"
  | .record => "dict"

/-- A value is false when it is null, false, zero (either sign), or empty; everything else,
a NaN included, is true. -/
def truthy : Value → Bool
  | .null => false
  | .bool b => b
  | .int n => n != 0
  | .float x => x != 0.0
  | .str s => !s.isEmpty
  | .list items => !items.isEmpty
  | .record fields => !fields.isEmpty

/-- The value itself when it is true, and `fallback` otherwise. -/
def orElse (v fallback : Value) : Value :=
  if v.truthy then v else fallback

/-- The entry of a record under `key`; of two entries with one key the later counts. -/
def field? (fields : List (String × Value)) (key : String) : Option Value :=
  (fields.reverse.find? (·.1 == key)).map (·.2)

def fieldD (fields : List (String × Value)) (key : String) : Value :=
  (field? fields key).getD .null

end Value

/-- The fields of a code unit. -/
inductive Field where
  | program
  | includeName
  | unitType
  | block
  | implementations
  | startLine
  | endLine
  | code
  deriving DecidableEq, Repr

namespace Field

def key : Field → String
  | .program => "pgm_name"
  | .includeName => "inc_name"
  | .unitType => "type"
  | .block => "name"
  | .implementations => "class_implementations"
  | .startLine => "start_line"
  | .endLine => "end_line"
  | .code => "code"

def all : List Field :=
  [.program, .includeName, .unitType, .block, .implementations, .startLine, .endLine, .code]

end Field

def Value.get (fields : List (String × Value)) (f : Field) : Value :=
  Value.fieldD fields f.key

/-- The causes for which an operation stops without a result. -/
inductive Fault where
  /-- A value of this kind stands where a record was needed, to look up a field. -/
  | notRecord (kind : Value.Kind)
  /-- A value of this kind stands where source code was needed. -/
  | codeNotText (kind : Value.Kind)
  /-- A value of this kind stands where one line of source was needed. -/
  | lineNotText (kind : Value.Kind)
  /-- A value of this kind was given to a pattern, which reads text only. -/
  | notText (kind : Value.Kind)
  /-- A whole number was added to a value of this kind. -/
  | notAddable (kind : Value.Kind)
  /-- A value of this kind was used as a bound of a range of positions. -/
  | notWhole (kind : Value.Kind)
  /-- A position lies before the first line. -/
  | outOfRange
  /-- A position lies below the least machine-sized position, `-2 ^ 63`. -/
  | notIndexSized
  /-- An infinite number was asked for its whole part. -/
  | infinite
  /-- Data failed its schema; the list names the failing fields. -/
  | rejected (locations : List String)
  deriving DecidableEq, Repr

namespace Fault

def message : Fault → String
  | .notRecord kind => s!"'{kind.name}' object has no attribute 'get'"
  | .codeNotText kind => s!"'{kind.name}' object has no attribute 'replace'"
  | .lineNotText kind => s!"'{kind.name}' object has no attribute 'lstrip'"
  | .notText kind => s!"expected string or bytes-like object, got '{kind.name}'"
  | .notAddable .str => "can only concatenate str (not \"int\") to str"
  | .notAddable .list => "can only concatenate list (not \"int\") to list"
  | .notAddable kind => s!"unsupported operand type(s) for +: '{kind.name}' and 'int'"
  | .notWhole kind => s!"'{kind.name}' object cannot be interpreted as an integer"
  | .outOfRange => "list index out of range"
  | .notIndexSized => "cannot fit 'int' into an index-sized integer"
  | .infinite => "cannot convert float infinity to integer"
  | .rejected locations => ",".intercalate locations

def errorClass : Fault → String
  | .notRecord _ | .codeNotText _ | .lineNotText _ => "AttributeError"
  | .notText _ | .notAddable _ | .notWhole _ => "TypeError"
  | .outOfRange | .notIndexSized => "IndexError"
  | .infinite => "OverflowError"
  | .rejected _ => "ValidationError"

end Fault

/-- Adds the whole number `k` to a value: whole numbers add exactly (`true` counting as one),
a floating-point sum is rounded once, and every other kind refuses. -/
def Value.addInt (v : Value) (k : Int) : Except Fault Value :=
  match v with
  | .int n => .ok (.int (n + k))
  | .bool b => .ok (.int ((if b then 1 else 0) + k))
  | .float x => .ok (.float (x + Float.ofInt k))
  | other => .error (.notAddable other.kind)

end AbapPerf
