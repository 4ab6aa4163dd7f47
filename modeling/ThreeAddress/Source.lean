import ThreeAddress.Operator
import ThreeAddress.Symbol

set_option autoImplicit false

namespace ThreeAddress

inductive Expr where
  | int (type : DataType) (value : Int64)
  | bool (type : DataType) (value : Bool)
  | string (type : DataType) (text : String)
  | eh (type : DataType)
  | name (type : DataType) (symbol : Symbol)
  | call (type : DataType) (callee : Symbol) (args : List Expr)
  | unary (type : DataType) (op : UnaryOp) (operand : Expr)
  | binary (type : DataType) (op : BinaryOp) (lhs rhs : Expr)

namespace Expr

def type : Expr → DataType
  | .int type _ | .bool type _ | .string type _ | .eh type | .name type _ | .call type _ _
  | .unary type _ _ | .binary type _ _ _ => type

def withType (type : DataType) : Expr → Expr
  | .int _ value => .int type value
  | .bool _ value => .bool type value
  | .string _ text => .string type text
  | .eh _ => .eh type
  | .name _ symbol => .name type symbol
  | .call _ callee args => .call type callee args
  | .unary _ op operand => .unary type op operand
  | .binary _ op lhs rhs => .binary type op lhs rhs

def ofInt (value : Int64) : Expr := .int .int value

def ofBool (value : Bool) : Expr := .bool .bool value

def ofString (text : String) : Expr := .string .string text

def unspecified : Expr := .eh .bool

def ofSymbol (symbol : Symbol) : Expr := .name symbol.type symbol

def apply (callee : Symbol) (args : List Expr) : Expr :=
  .call (callee.type.result?.getD .void) callee args

def applyUnary (op : UnaryOp) (operand : Expr) : Expr := .unary op.resultType op operand

def applyBinary (op : BinaryOp) (lhs rhs : Expr) : Expr := .binary op.resultType op lhs rhs

@[simp] theorem type_with_type (type : DataType) (expr : Expr) : (expr.withType type).type = type := by
  cases expr <;> rfl

end Expr

inductive Stmt where
  | localVariable (symbol : Symbol)
  | localFormal (symbol : Symbol)
  | localFunction (symbol : Symbol) (formals : List Symbol) (body : List Stmt)
  | assign (dst src : Expr)
  | maybe (dst first second : Expr)
  | increment (target : Expr)
  | decrement (target : Expr)
  | write (value : Expr)
  | read (target : Expr)
  | ifThen (cond : Expr) (body : List Stmt)
  | ifElse (cond : Expr) (positive negative : List Stmt)
  | whileDo (cond : Expr) (body : List Stmt)
  | call (callee : Symbol) (args : List Expr)
  | ret (value : Option Expr)

structure Function where
  symbol : Symbol
  formals : List Symbol
  body : List Stmt

-- Declarations at the top level. A formal has no place there, yet a tree may hold one.
inductive Decl where
  | global (symbol : Symbol)
  | formal (symbol : Symbol)
  | function (definition : Function)

end ThreeAddress
