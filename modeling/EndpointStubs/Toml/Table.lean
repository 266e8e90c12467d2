/-!
# TOML tables

A table remembers how it came about, because that decides what may still be added to it: an
inline table is closed, a header defines its table once, and dotted keys only extend tables
that no header has defined.
-/

namespace EndpointStubs.Toml

/-- How a table came about. -/
inductive Origin where
  | inline
  /-- As a step of a dotted key. -/
  | dotted
  /-- By its own header. -/
  | header
  /-- As a step of the header of a table below. -/
  | implied
  deriving DecidableEq, Repr

/-- A value: a text, an array without items, or a table. -/
inductive Value where
  | text (s : String)
  | emptyArray
  | table (origin : Origin) (entries : List (String × Value))

abbrev Entries := List (String × Value)

namespace Entries

def find? (es : Entries) (key : String) : Option Value :=
  (List.find? (fun e => e.1 = key) es).map Prod.snd

/-- Replaces the value of a key, or adds it at the end. -/
def set : Entries → String → Value → Entries
  | [], key, v => [(key, v)]
  | e :: es, key, v => if e.1 = key then (key, v) :: es else e :: set es key v

/-- Adds `key₁.key₂.… = value`. -/
def put (es : Entries) : List String → Value → Option Entries
  | [], _ => none
  | [key], v =>
    match es.find? key with
    | none => some (es ++ [(key, v)])
    | some _ => none
  | key :: keys, v =>
    match es.find? key with
    | none => (put [] keys v).map fun sub => es.set key (.table .dotted sub)
    | some (.table .dotted sub) => (put sub keys v).map fun sub => es.set key (.table .dotted sub)
    | some (.table .implied sub) => (put sub keys v).map fun sub => es.set key (.table .implied sub)
    | some _ => none

def define (es : Entries) : List String → Option Entries
  | [] => none
  | [key] =>
    match es.find? key with
    | none => some (es ++ [(key, .table .header [])])
    | some (.table .implied sub) => some (es.set key (.table .header sub))
    | some _ => none
  | key :: keys =>
    match es.find? key with
    | none => (define [] keys).map fun sub => es.set key (.table .implied sub)
    | some (.table .inline _) => none
    | some (.table origin sub) => (define sub keys).map fun sub => es.set key (.table origin sub)
    | some _ => none

/-- Adds a key below the table of a header. -/
def putBelow (es : Entries) : List String → List String → Value → Option Entries
  | [], keys, v => es.put keys v
  | step :: steps, keys, v =>
    match es.find? step with
    | some (.table origin sub) =>
      (putBelow sub steps keys v).map fun sub => es.set step (.table origin sub)
    | _ => none

end Entries

end EndpointStubs.Toml
