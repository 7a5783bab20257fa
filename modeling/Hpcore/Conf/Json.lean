import Hpcore.Conf.Types

/-! # The JSON documents of the config files

`jsoncons::ojson`, the document type `conf.cpp` reads and writes: objects keep
their members in insertion order. `jsoncons` is not part of the sources; its
accessors are modelled as throwing on a missing key and on a value of another
kind than the one asked for. The config files hold only integers, so numbers
are `Int`.

A config file is modelled by the document it holds: `write_json_file` prints
a document, and `jsoncons::ojson::parse` of that text gives the document
back. A file whose text is not a JSON document (one a failed write truncated)
is `unparsable`. -/

namespace Hpcore.Conf

/-- A `jsoncons::ojson` value. -/
inductive Json
  | null
  | bool (b : Bool)
  | num (n : Int)
  | str (s : String)
  | arr (elems : List Json)
  | obj (members : List (String × Json))
  deriving Inhabited

/-- The `jsoncons` exceptions `conf.cpp` catches. -/
inductive JsonError
  | keyNotFound (key : String)
  | notAnObject
  | notAnArray
  | notConvertible (target : String)
  deriving DecidableEq

/-- `e.what()`. -/
def JsonError.what : JsonError → String
  | .keyNotFound key => "Key not found: " ++ key
  | .notAnObject => "Not an object"
  | .notAnArray => "Not an array"
  | .notConvertible target => "Not a " ++ target

namespace Json

/-- `operator[]` on a `const ojson`. -/
def get (key : String) : Json → Except JsonError Json
  | .obj members =>
    match members.find? (·.1 = key) with
    | some m => .ok m.2
    | none => .error (.keyNotFound key)
  | _ => .error .notAnObject

/-- `as<std::string>()`. -/
def asString : Json → Except JsonError String
  | .str s => .ok s
  | _ => .error (.notConvertible "string")

/-- `as<bool>()`. -/
def asBool : Json → Except JsonError Bool
  | .bool b => .ok b
  | .num n => .ok (n != 0)
  | _ => .error (.notConvertible "bool")

/-- `as<T>()` for an unsigned `T` of `bits` bits: a `static_cast` of the
stored integer. -/
def asUInt (bits : Nat) : Json → Except JsonError Nat
  | .num n => .ok (n % 2 ^ bits).toNat
  | _ => .error (.notConvertible "integer")

/-- `array_range()`. -/
def arrayRange : Json → Except JsonError (List Json)
  | .arr elems => .ok elems
  | _ => .error .notAnArray

/-- `object_range()`. -/
def objectRange : Json → Except JsonError (List (String × Json))
  | .obj members => .ok members
  | _ => .error .notAnObject

/-- `is_string()`. -/
def isString : Json → Bool
  | .str _ => true
  | _ => false

/-- `j == "s"`: only a string equal to `s`. -/
def eqStr (s : String) : Json → Bool
  | .str t => t = s
  | _ => false

/-- An unsigned field, as `insert_or_assign` stores it. -/
def uint (n : Nat) : Json := .num n

end Json

/-- `insert_or_assign` on an object's members: replace the member in place, or
append it. -/
def insertOrAssign (members : List (String × Json)) (key : String) (v : Json) :
    List (String × Json) :=
  if members.any (·.1 = key) then members.map fun m => if m.1 = key then (key, v) else m
  else members ++ [(key, v)]

/-- What a config file holds. -/
inductive FileText
  | doc (d : Json)
  | unparsable
  deriving Inhabited

/-- How the `open` and `write` calls of `write_json_file` end. A short write
returns a count the code does not check. -/
inductive WriteOutcome
  | written
  | openFailed
  | writeFailed
  | shortWrite
  deriving DecidableEq

/-- `write_json_file`: the return value and the file's new content. `O_TRUNC`
empties the file when it opens, so a failed or short write leaves text that
does not parse. -/
def writeJsonFile (old : FileText) (d : Json) : WriteOutcome → Int × FileText
  | .written => (0, .doc d)
  | .openFailed => (-1, old)
  | .writeFailed => (-1, .unparsable)
  | .shortWrite => (0, .unparsable)

end Hpcore.Conf
