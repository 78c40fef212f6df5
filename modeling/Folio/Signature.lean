import Folio.Fault

/-! What a call takes, and what is wrong with one that is given something else. What is called upon
is an argument too: it comes first and has a name of its own, so it can be neither named again nor
left out. Calls given as plain data are a name followed by the arguments. -/
namespace Folio

structure Signature where
  required : List String
  optional : List String

namespace Signature

def receiver : String := "self"

def maker (owner : String) : String := owner ++ ".__init__"

def takes (signature : Signature) (name : String) : Bool :=
  signature.required.contains name || signature.optional.contains name

def stray (callee name : String) : Fault :=
  if name == receiver then .repeatedArgument callee name else .unexpectedArgument callee name

/-- Judges arguments given by name: a name that is not taken comes before one that is missed. -/
def checkNames (signature : Signature) (callee : String) (given : List String) :
    Except Fault Unit :=
  match given.find? fun name => !signature.takes name with
  | some name => .error (stray callee name)
  | none =>
    match signature.required.filter fun name => !given.contains name with
    | [] => .ok ()
    | missing => .error (.missingArguments callee missing)

/-- Judges arguments given by place. What is called upon counts as one where there are too many. -/
def checkCount (signature : Signature) (callee : String) (given : Nat) : Except Fault Unit :=
  let least := signature.required.length
  let most := least + signature.optional.length
  if most < given then .error (.tooManyArguments callee (least + 1) (most + 1) (given + 1))
  else
    match signature.required.drop given with
    | [] => .ok ()
    | missing => .error (.missingArguments callee missing)

end Signature

/-- What a thing answers to by name: the calls it takes, and what else it has, with the kind of each.
The latter can be looked up but not called. -/
structure Interface where
  owner : String
  calls : List (String × Signature)
  members : List (String × String)

namespace Interface

def uncalled (interface : Interface) (name : String) : Fault :=
  match interface.members.lookup name with
  | some kind => .notCallable kind
  | none => .lacks interface.owner name

def fit (interface : Interface) (name : Value) (given : Nat) : Except Fault String :=
  match name with
  | .str name =>
    match interface.calls.lookup name with
    | some signature =>
      (signature.checkCount (interface.owner ++ "." ++ name) given).map fun _ => name
    | none => .error (interface.uncalled name)
  | value => .error (.memberNotNamed value.kind)

/-- A call by its name and arguments, as `call?` has it for those that fit. -/
def resolve {α : Type} (interface : Interface) (call? : String → List Value → Option α)
    (name : Value) (args : List Value) : Except Fault α := do
  let name ← interface.fit name args.length
  match call? name args with
  | some call => .ok call
  | none => .error (interface.uncalled name)

end Interface

def callParts (value : Value) : Except Fault (Value × List Value) :=
  match value.elements? with
  | none => .error (.notUnpackable value.kind)
  | some [] => .error .noParts
  | some (name :: args) => .ok (name, args)

end Folio
