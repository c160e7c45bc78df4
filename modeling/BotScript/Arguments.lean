import BotScript.Coercion

/-! Arguments of functions that take either several values or a list of them. -/

namespace BotScript

/-- The sequence that arguments stand for: lists are taken apart once, and nil is left out or kept
as null. -/
def flatten (skipNil : Bool) (arguments : List Value) : List Value :=
  arguments.flatMap fun v =>
    match v.dereference with
    | some (.list items) => items
    | some _ => [v]
    | none => if skipNil then [] else [.null]

/-- The texts that arguments stand for, without nil. -/
def flattenTexts (arguments : List Value) : List String := (flatten true arguments).map (·.toText)

/-- The argument at an index, or nil. -/
def argument (arguments : List Value) (index : Nat) : Value := arguments.getD index .null

/-- The argument at an index, if it was passed and is not nil. -/
def givenArgument? (arguments : List Value) (index : Nat) : Option Value :=
  arguments[index]?.filter fun v => !v.isNil

/-- There are at least `least` arguments. -/
def requireArguments (function : String) (arguments : List Value) (least : Nat) :
    Except Mistake Unit :=
  if arguments.length < least then .error (.tooFewArguments function least arguments.length)
  else .ok ()

theorem requireArguments_of_le {function : String} {arguments : List Value} {least : Nat}
    (h : least ≤ arguments.length) : requireArguments function arguments least = .ok () := by
  unfold requireArguments
  exact if_neg (Nat.not_lt.mpr h)

end BotScript
