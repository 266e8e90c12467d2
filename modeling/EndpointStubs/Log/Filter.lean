import EndpointStubs.Event
import EndpointStubs.Log.Pattern
import EndpointStubs.Text.Blank
import EndpointStubs.Text.Case
import EndpointStubs.Text.Order
import EndpointStubs.Text.Pieces
import EndpointStubs.Unicode.Alphanumeric

/-!
# Filters of events

A filter is a list of directives. A directive names a level, and may name the start of a
target and fields that an event has to carry. Of the directives that match an event the most
specific one decides: the one with the longest target, then the one with the most fields.
Directives about spans of time, and about values of fields, decide about no event.

    target[span{field}]=level        target=level        level        target
-/

namespace EndpointStubs.Log

/-- The least severe level that is shown; nothing is shown without one. -/
abbrev Threshold := Option Event.Level

structure Directive where
  target : Option String := none
  fields : List String := []
  threshold : Threshold
  /-- It speaks about spans, and so about no event. -/
  ofSpans : Bool := false
  deriving DecidableEq, Repr

abbrev Filter := List Directive

/-! ## Levels -/

def thresholdNames : List (String × Threshold) :=
  [("off", none), ("error", some .error), ("warn", some .warn), ("info", some .info),
   ("debug", some .debug), ("trace", some .trace)]

/-- A decimal number, perhaps with a plus sign. -/
def number? (cs : List Char) : Option Nat :=
  let digits := match cs with
    | '+' :: cs => cs
    | cs => cs
  if digits.isEmpty || !digits.all Char.isDigit then none
  else some (digits.foldl (fun n c => n * 10 + (c.toNat - 48)) 0)

/-- The threshold of that name, in any case, or of that number. -/
def threshold? (cs : List Char) : Option Threshold :=
  match number? cs with
  | some n => (thresholdNames[n]?).map Prod.snd
  | none =>
    (thresholdNames.find? fun t => t.1.toList = cs.map Char.toLower).map Prod.snd

/-! ## Reading directives

The text without the blanks around it tells where the parts of a directive lie. The parts
themselves are cut from the text as it stands, at the same distances from its start. -/

/-- A character that tells where parts lie, and the one that belongs to a part there. -/
abbrev Cells := List (Char × Char)

def part (cells : Cells) : List Char := cells.map Prod.snd

/-- The cells up to one that the question is answered for. -/
def cutAt (stop : Char → Bool) (cells : Cells) : Cells × Cells := cells.span fun c => !stop c.1

def spanned (d : Directive) : Directive := { d with ofSpans := true }

/-- A field, perhaps with a value; only the first part of it counts as the value. -/
def addField (d : Directive) (cs : List Char) : Option Directive :=
  if cs = [] then none
  else
    let d := { d with fields := d.fields ++ [String.ofList (cs.takeWhile (· ≠ '='))] }
    match cs.dropWhile (· ≠ '=') with
    | [] => some d
    | _ :: rest => if Pattern.isValue (rest.takeWhile (· ≠ '=')) then some (spanned d) else none

section
variable (tail : List Char)

/-- The level after a target, if one is named; `tail` follows the last cell in the text. -/
def readThreshold (d : Directive) : Cells → Option Directive
  | [] => some d
  | ('=', _) :: cells =>
    match part cells ++ tail with
    | [] => some d
    | level => (threshold? level).map fun t => { d with threshold := t }
  | _ => none

/-- A span in brackets, after the opening one. -/
def readSpan (d : Directive) (cells : Cells) : Option Directive :=
  let (name, rest) := cutAt (fun c => c = ']' || c = '{') cells
  match rest with
  | (']', _) :: rest => readThreshold tail (spanned d) rest
  | ('{', _) :: rest => do
    let (field, rest) := cutAt (· = '}') rest
    match rest with
    | _ :: (']', _) :: rest =>
      let d ← addField d (part field)
      readThreshold tail (if name.isEmpty then d else spanned d) rest
    | _ => none
  | _ => none

/-- The whole text is a level, or else a target. -/
def ofWhole (cs : List Char) : Directive :=
  match threshold? cs with
  | some t => { threshold := t }
  | none => { target := some (String.ofList cs), threshold := some .trace }

/-- May start a target or a level. -/
def startsWord (c : Char) : Bool := Unicode.isAlphanumeric c || ['-', ':', '_'].contains c

def readDirective (cells : Cells) : Option Directive :=
  match cells with
  | [] => none
  | ('[', _) :: cells => readSpan tail { threshold := some .trace } cells
  | (c, _) :: _ =>
    if !startsWord c then none
    else
      let (target, rest) := cutAt (fun c => c = '=' || c = '[') cells
      let named : Directive :=
        { target := some (String.ofList (part target)), threshold := some .trace }
      match rest with
      | [] => some (ofWhole (part target ++ tail))
      | ('[', _) :: rest => readSpan tail named rest
      | rest => readThreshold tail named rest

end

def Directive.ofText? (s : String) : Option Directive :=
  let cs := s.toList
  let steering := Text.trim cs
  readDirective (cs.drop steering.length) (steering.zip cs)

/-! ## Filters -/

namespace Filter

/-- With one more directive; it replaces the one that asks for the same. -/
def add (f : Filter) (d : Directive) : Filter :=
  if d.ofSpans then f
  else (f.filter fun e => !(e.target = d.target && e.fields = d.fields)) ++ [d]

/-- A filter of directives with commas between. -/
def ofText? (s : String) : Option Filter := do
  let ds ← ((Text.splitString ',' s).filter (· ≠ "")).mapM Directive.ofText?
  return ds.foldl add []

/-- The events up to a level. -/
def ofLevel (l : Event.Level) : Filter := [{ threshold := some l }]

end Filter

/-! ## Matching -/

namespace Directive

/-- The directive speaks about an event. -/
def covers (d : Directive) (e : Event) : Bool :=
  d.target.all (fun t => t.toList.isPrefixOf e.target.toList) &&
    d.fields.all fun f => f = "message" || e.fields.any fun g => g.1 = f

/-- The length of the target; no target is shorter than any. -/
def targetSize (d : Directive) : Nat :=
  match d.target with
  | some t => t.utf8ByteSize + 1
  | none => 0

/-- The first directive is at most as specific as the second. -/
def le (a b : Directive) : Bool :=
  if a.targetSize ≠ b.targetSize then a.targetSize < b.targetSize
  else if a.fields.length ≠ b.fields.length then a.fields.length < b.fields.length
  else Text.inOrder a.fields b.fields

/-- The directive shows events of a level. -/
def shows (d : Directive) (l : Event.Level) : Bool := d.threshold.any fun t => l.rank ≤ t.rank

end Directive

/-- The directive that decides about an event. -/
def Filter.decisive? (f : Filter) (e : Event) : Option Directive :=
  (f.filter fun d => d.covers e).foldl
    (fun best d => if best.all fun b => b.le d then some d else best) none

def Filter.passes (f : Filter) (e : Event) : Bool :=
  (f.decisive? e).any fun d => d.shows e.level

end EndpointStubs.Log
