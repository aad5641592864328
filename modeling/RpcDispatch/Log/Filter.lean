/-
This file defines filters of the log.  A filter is a list of directives, of which the most specific
one decides about a record.
-/

import RpcDispatch.Log.Directive

namespace RpcDispatch.Log

/-- Of two directives that are equally specific the later counts. -/
structure Filter where
  directives : List Directive

namespace Filter

/-- Directives stand between commas, and there may be nothing between two commas. -/
def parse (text : String) : Except FilterFault Filter :=
  ((Text.splitAt ',' text.toList).filter (!·.isEmpty)).mapM
    (fun part => Directive.parse (String.ofList part)) |>.map (⟨·⟩)

/-- The more specific of two directives. -/
def better (held : Option Directive) (directive : Directive) : Option Directive :=
  match held with
  | none => some directive
  | some other => if directive.isAtLeast other then some directive else held

/-- The threshold for a record.  Without any directive errors pass. -/
def threshold (filter : Filter) (record : Record) : Threshold :=
  if filter.directives.isEmpty then Threshold.error
  else
    let applying := filter.directives.filter (·.appliesTo record)
    ((applying.foldl better none).map (·.threshold)).getD 0

/-- Whether a record passes. -/
def passes (filter : Filter) (record : Record) : Bool :=
  record.level.rank ≤ filter.threshold record

end Filter

end RpcDispatch.Log
