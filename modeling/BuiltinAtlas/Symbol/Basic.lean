import BuiltinAtlas.Atlas.Basic

/-!
# Symbols

A `Symbol` is what the source code is wanted for: a built-in function, method, type or module of the
interpreter, or an object that carries its own source.
-/

namespace BuiltinAtlas

/-- What a method is bound to. -/
inductive Receiver where
  /-- A type, as class methods are. -/
  | type (name : String)
  /-- An object of a class. -/
  | object (className : String)
  deriving DecidableEq

/-- The name of the type of a receiver, or of the receiver that is a type itself. -/
def Receiver.typeName : Receiver → String
  | .type name => name
  | .object className => className

/-- A symbol. -/
inductive Symbol where
  /-- An object with its own source. -/
  | plain (name : String) (native : Excerpt)
  | function (name : String) (moduleName : Option String)
  | method (name : String) (moduleName : Option String) (receiver : Option Receiver)
  /-- A method that is looked up on the type that owns it. -/
  | descriptor (name : String) (owner : Option String)
  | module (name : String)
  | type (name : String) (moduleName : Option String)
  deriving DecidableEq

namespace Symbol

/-- The name of a symbol. -/
def name : Symbol → String
  | plain n _ | function n _ | method n _ _ | descriptor n _ | module n | type n _ => n

/-- The module that declares a function, method or type, if that is known. -/
def moduleName? : Symbol → Option String
  | function _ m | method _ m _ | type _ m => m
  | plain .. | descriptor .. | module _ => none

/-- The type around a method, or the type itself. -/
def typeName? : Symbol → Option String
  | method _ _ receiver => receiver.map (·.typeName)
  | descriptor _ owner => owner
  | type n _ => some n
  | plain .. | function .. | module _ => none

end Symbol

end BuiltinAtlas
