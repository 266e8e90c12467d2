/-!
# Names of filters and tests

Which filters and tests there are, whatever their arguments.
-/

namespace EndpointStubs.Template

def filterNames : List String :=
  ["safe", "escape", "e", "lower", "upper", "title", "capitalize", "replace", "length", "count",
   "dictsort", "items", "reverse", "trim", "join", "split", "lines", "default", "d", "round", "abs",
   "int", "float", "attr", "first", "last", "min", "max", "sort", "list", "string", "bool", "batch",
   "slice", "sum", "indent", "select", "reject", "selectattr", "rejectattr", "map", "groupby",
   "unique", "chain", "zip", "pprint", "format"]

def testNames : List String :=
  ["undefined", "defined", "none", "safe", "escaped", "boolean", "odd", "even", "divisibleby",
   "number", "integer", "int", "float", "string", "sequence", "iterable", "mapping",
   "startingwith", "endingwith", "lower", "upper", "sameas", "eq", "equalto", "==", "ne", "!=",
   "lt", "lessthan", "<", "le", "<=", "gt", "greaterthan", ">", "ge", ">=", "in", "true", "false",
   "filter", "test"]

end EndpointStubs.Template
