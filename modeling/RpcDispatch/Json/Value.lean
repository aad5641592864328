/-
This file defines JSON values.  An object is a list of members in strictly increasing order of
their names, so equal objects are equal lists.
-/

namespace RpcDispatch.Json

/-- A number is an integer as written, or a binary64 number given by its bits. -/
inductive Number where
  | integer (value : Int)
  | float (bits : UInt64)
  deriving DecidableEq, Inhabited

/-- The integers that a text keeps exactly are the signed and the unsigned 64-bit ones. -/
def Number.isExact (value : Int) : Bool :=
  -0x8000000000000000 ≤ value && value < 0x10000000000000000

inductive Value where
  | null
  | bool (value : Bool)
  | number (value : Number)
  | string (value : String)
  | array (items : List Value)
  | object (members : List (String × Value))
  deriving Inhabited

/-- The order of names is the order of their code points, which is also that of their bytes. -/
def insertMember {α : Type} (name : String) (value : α) : List (String × α) → List (String × α)
  | [] => [(name, value)]
  | (other, held) :: rest =>
    if name < other then (name, value) :: (other, held) :: rest
    else if name = other then (name, value) :: rest
    else (other, held) :: insertMember name value rest

/-- The member list of the given pairs, where a later pair replaces an earlier one. -/
def collectMembers {α : Type} (pairs : List (String × α)) : List (String × α) :=
  pairs.foldl (fun members pair => insertMember pair.1 pair.2 members) []

namespace Value

def isNull : Value → Bool
  | .null => true
  | _ => false

def integer (value : Int) : Value :=
  .number (.integer value)

/-- The object with the given members, whatever order they come in. -/
def ofMembers (pairs : List (String × Value)) : Value :=
  .object (collectMembers pairs)

/-- The member of an object, or nothing for any other value. -/
def get? (name : String) : Value → Option Value
  | .object members => members.lookup name
  | _ => none

end Value

end RpcDispatch.Json
