/-!
# Faults of scripts

The reasons for which the interpreter itself stops a script, each with the text that the script gets
to see.
-/

namespace ScriptBridge

/-- A step of the interpreter that has no result. The program itself breaks off there, and no part of
a script sees it; here the evaluation ends with a fault that says which step it was. -/
inductive Breakdown where
  /-- A position before the first element. -/
  | beforeFirst
  /-- A range of as many elements as no machine word counts. -/
  | uncounted
  /-- The first of no elements. -/
  | noFirst
  deriving DecidableEq

def Breakdown.message : Breakdown → String
  | beforeFirst => "attempt to subtract with overflow"
  | uncounted => "attempt to add with overflow"
  | noFirst => "swap_remove index (is 0) should be < len (is 0)"

inductive Fault where
  -- Coercion.
  | cannotCoerce (typeName wanted : String)
  | listCoercion (wanted : String)
  | emptyCondition
  | notLogical
  | missingCondition
  -- Operators.
  | nonNumericOperand
  | unaryOperand
  | argumentType
  | rangeBound
  | notComparable
  -- Selection and replacement.
  | mixedSubscripts
  | subscriptType (typeName : String)
  | notSubsettable (typeName : String)
  | emptySubscript
  | manySubscripts
  | outOfBounds
  | invalidSubscript
  | dollarOnVector
  | missingSubscript
  | emptyReplacement
  | longReplacement
  -- Formats.
  | unknownFormat (spec : String)
  | tooFewArguments
  | textForInteger (conversion : Char)
  | fractionForInteger (conversion : Char)
  -- Names and calls.
  | objectNotFound (name : String)
  | notAFunction
  | functionNotFound (name : String)
  | unusedNamedArgument (name : String)
  | unusedArgument
  | missingArgument (what : String)
  | missingArgumentOf (what function : String)
  | tooDeep
  | invalidTarget
  | removeArgument
  | returnOutside
  | convertedWarning (text : String)
  /-- The script stopped itself. -/
  | stopped (text : String)
  -- Files and connections.
  | listForCat
  | cannotOpen (path reason : String)
  | connectionType (typeName : String)
  | cannotChangeDirectory
  | breakdown (b : Breakdown)
  deriving DecidableEq

def Fault.message : Fault → String
  | cannotCoerce t wanted => s!"cannot coerce type '{t}' to vector of type '{wanted}'"
  | listCoercion wanted => s!"'list' object cannot be coerced to type '{wanted}'"
  | emptyCondition => "argument is of length zero"
  | notLogical => "argument is not interpretable as logical"
  | missingCondition => "missing value where TRUE/FALSE needed"
  | nonNumericOperand => "non-numeric argument to binary operator"
  | unaryOperand => "invalid argument to unary operator"
  | argumentType => "invalid argument type"
  | rangeBound => "NA/NaN argument"
  | notComparable => "comparison of these types is not implemented"
  | mixedSubscripts => "can't mix positive and negative subscripts"
  | subscriptType t => s!"invalid subscript type '{t}'"
  | notSubsettable t => s!"object of type '{t}' is not subsettable"
  | emptySubscript => "subscript of length 0"
  | manySubscripts => "attempt to select more than one element"
  | outOfBounds => "subscript out of bounds"
  | invalidSubscript => "invalid subscript"
  | dollarOnVector => "$ operator is invalid for atomic vectors"
  | missingSubscript => "NAs are not allowed in subscripted assignments"
  | emptyReplacement => "replacement has length zero"
  | longReplacement => "more elements supplied than there are to replace"
  | unknownFormat spec => s!"unrecognised format specification '{spec}'"
  | tooFewArguments => "too few arguments"
  | textForInteger c => s!"invalid format '%{c}'; use format %s for character objects"
  | fractionForInteger c =>
    s!"invalid format '%{c}'; use format %f, %e, %g or %a for numeric objects"
  | objectNotFound name => s!"object '{name}' not found"
  | notAFunction => "attempt to apply non-function"
  | functionNotFound name => s!"could not find function \"{name}\""
  | unusedNamedArgument name => s!"unused argument ({name} = ...)"
  | unusedArgument => "unused argument"
  | missingArgument what => s!"argument \"{what}\" is missing, with no default"
  | missingArgumentOf what function =>
    s!"argument \"{what}\" is missing, with no default (in {function})"
  | tooDeep => "evaluation nested too deeply: infinite recursion"
  | invalidTarget => "invalid assignment target"
  | removeArgument => "... must contain names or character strings"
  | returnOutside => "no function to return from, jumping to top level"
  | convertedWarning text => "(converted from warning) " ++ text
  | stopped text => text
  | listForCat => "argument 1 (type 'list') cannot be handled by 'cat'"
  | cannotOpen path reason => s!"cannot open file '{path}': {reason}"
  | connectionType t => s!"invalid connection of type '{t}'"
  | cannotChangeDirectory => "cannot change working directory"
  | breakdown b => b.message

end ScriptBridge
