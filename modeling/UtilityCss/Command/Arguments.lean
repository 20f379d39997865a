import UtilityCss.Text.Basic

/-!
# Command-line arguments

A `Grammar` says which options a command knows.  `Grammar.scan` reads arguments by it: options are
taken out in the order in which they are given, and the other words are kept in order.

A long option takes its value from behind an equals sign or else from the next argument, whatever
that looks like.  One-letter flags can be written together behind one hyphen.  Two hyphens alone end
the options, and so does the first word if options may not stand after it.
-/

namespace UtilityCss

/-- The options that a command knows. -/
structure Grammar where
  /-- The long options, each with whether it takes a value. -/
  long : List (Text × Bool)
  /-- The one-letter flags, each with the long option that it stands for. -/
  short : List (Char × Text)
  /-- Can options stand after the first word? -/
  interspersed : Bool
deriving DecidableEq, Repr

/-- Arguments that were read. -/
structure Arguments where
  /-- The options in order, with their values; a flag has the empty value. -/
  options : List (Text × Text)
  /-- The other arguments in order. -/
  words : List Text
deriving DecidableEq, Repr

/-- Arguments that a grammar does not admit. -/
inductive ArgumentFault
  | unknownOption (option : Text)
  | missingValue (option : Text)
  | surplusValue (option : Text)
deriving DecidableEq, Repr

/-- The wording of a fault. -/
def ArgumentFault.message : ArgumentFault → Text
  | .unknownOption option => "No such option: " ++ option
  | .missingValue option => "Option '" ++ option ++ "' requires an argument."
  | .surplusValue option => "Option '" ++ option ++ "' does not take a value."

namespace Arguments

/-- No arguments. -/
def none : Arguments := ⟨[], []⟩

/-- The arguments with one more option in front. -/
def withOption (option value : Text) (arguments : Arguments) : Arguments :=
  { arguments with options := (option, value) :: arguments.options }

/-- The arguments with one more word in front. -/
def withWord (word : Text) (arguments : Arguments) : Arguments :=
  { arguments with words := word :: arguments.words }

/-- Was the option given? -/
def has (arguments : Arguments) (option : Text) : Bool :=
  arguments.options.any (·.1 = option)

/-- The value that an option was given last. -/
def value? (arguments : Arguments) (option : Text) : Option Text :=
  arguments.options.reverse.lookup option

/-- The one of two opposite flags that was given last. -/
def flag (arguments : Arguments) (on off : Text) : Bool :=
  match arguments.options.reverse.find? fun (option, _) => option = on ∨ option = off with
  | some (option, _) => option = on
  | Option.none => false

end Arguments

namespace Grammar

/-- Does the argument look like an option? -/
def isOption : Text → Bool
  | '-' :: _ :: _ => true
  | _ => false

/-- An argument in two: up to its first equals sign, and what follows that sign. -/
def splitValue (argument : Text) : Text × Option Text :=
  match argument.dropWhile (· ≠ '=') with
  | _ :: value => (argument.takeWhile (· ≠ '='), some value)
  | [] => (argument, none)

/-- The flags that are written together behind one hyphen. -/
def flags (grammar : Grammar) (letters : Text) : Except ArgumentFault (List (Text × Text)) :=
  letters.mapM fun letter =>
    match grammar.short.lookup letter with
    | some option => .ok (option, [])
    | none => .error (.unknownOption ['-', letter])

/-- Reads an argument that is no long option: letters behind one hyphen are flags. -/
def others (grammar : Grammar) : Text → Except ArgumentFault (List (Text × Text))
  | '-' :: '-' :: rest => .error (.unknownOption ('-' :: '-' :: rest))
  | argument => grammar.flags (argument.drop 1)

/-- Reads arguments. -/
def scan (grammar : Grammar) : List Text → Except ArgumentFault Arguments
  | [] => .ok .none
  | argument :: rest =>
    if argument = "--" then .ok ⟨[], rest⟩
    else if isOption argument then
      match grammar.long.lookup (splitValue argument).1, (splitValue argument).2 with
      | some true, some value =>
        (grammar.scan rest).map (.withOption (splitValue argument).1 value)
      | some true, none =>
        match rest with
        | [] => .error (.missingValue argument)
        | value :: rest => (grammar.scan rest).map (.withOption argument value)
      | some false, some _ => .error (.surplusValue (splitValue argument).1)
      | some false, none => (grammar.scan rest).map (.withOption argument [])
      | none, _ => do
        let flags ← grammar.others argument
        let arguments ← grammar.scan rest
        .ok { arguments with options := flags ++ arguments.options }
    else if grammar.interspersed then (grammar.scan rest).map (.withWord argument)
    else .ok ⟨[], argument :: rest⟩

end Grammar

end UtilityCss
