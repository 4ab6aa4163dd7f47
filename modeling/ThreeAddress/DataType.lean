set_option autoImplicit false

namespace ThreeAddress

inductive DataType where
  | int
  | bool
  | string
  | void
  | function (params : List DataType) (result : DataType)

namespace DataType

def width : DataType → Nat
  | .void => 0
  | _ => 8

def isVoid : DataType → Bool
  | .void => true
  | _ => false

def result? : DataType → Option DataType
  | .function _ result => some result
  | _ => none

mutual

/-- Written form. The result of a function follows its arrow without parentheses,
whatever its type. -/
def text : DataType → String
  | .int => "int"
  | .bool => "bool"
  | .string => "immutable string"
  | .void => "void"
  | .function params result => "(" ++ ", ".intercalate (texts params) ++ ") -> " ++ text result

def texts : List DataType → List String
  | [] => []
  | type :: tail => text type :: texts tail

end

mutual

def decEq : (a b : DataType) → Decidable (a = b)
  | .int, .int => .isTrue rfl
  | .bool, .bool => .isTrue rfl
  | .string, .string => .isTrue rfl
  | .void, .void => .isTrue rfl
  | .function params result, .function params' result' =>
      match decEqList params params', decEq result result' with
      | .isTrue sameParams, .isTrue sameResult => .isTrue (by rw [sameParams, sameResult])
      | .isFalse different, _ => .isFalse (by simp [different])
      | _, .isFalse different => .isFalse (by simp [different])
  | .int, .bool | .int, .string | .int, .void | .int, .function .. => .isFalse (by simp)
  | .bool, .int | .bool, .string | .bool, .void | .bool, .function .. => .isFalse (by simp)
  | .string, .int | .string, .bool | .string, .void | .string, .function .. => .isFalse (by simp)
  | .void, .int | .void, .bool | .void, .string | .void, .function .. => .isFalse (by simp)
  | .function .., .int | .function .., .bool => .isFalse (by simp)
  | .function .., .string | .function .., .void => .isFalse (by simp)

def decEqList : (as bs : List DataType) → Decidable (as = bs)
  | [], [] => .isTrue rfl
  | [], _ :: _ => .isFalse (by simp)
  | _ :: _, [] => .isFalse (by simp)
  | a :: as, b :: bs =>
      match decEq a b, decEqList as bs with
      | .isTrue sameHead, .isTrue sameTail => .isTrue (by rw [sameHead, sameTail])
      | .isFalse different, _ => .isFalse (by simp [different])
      | _, .isFalse different => .isFalse (by simp [different])

end

instance : DecidableEq DataType := decEq

end DataType

end ThreeAddress
