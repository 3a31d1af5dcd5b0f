import LineCommand.Conversion.Basic
import LineCommand.Number.Shortest
import LineCommand.Text.Blank

/-!
Converters that look names up in a directory. An exact hit wins if it is the only one; else the best
of the similar names wins if it is good enough and alone in being so good.
-/
namespace LineCommand

/-- Looks items up by name, exactly or with a score for similarity. -/
structure Directory where
  exact : String → List Value
  fuzzy : String → List (Value × Double)

/-- The score that is asked for if nothing else is said: one half. -/
def halfScore : Double := .ofRatio false 1 2

/-- How names are looked up. `description` is the noun for an item in messages. -/
structure LookupOptions where
  minScore : Double := halfScore
  allowFuzzy : Bool := true
  description : String := "item"

namespace LookupOptions

def admits (options : LookupOptions) (score : Double) : Bool :=
  score.same options.minScore || options.minScore.below score

end LookupOptions

/-- Matches from the greatest score to the least; those with the same score keep their order. -/
def ranked (found : List (Value × Double)) : List (Value × Double) :=
  found.mergeSort fun m n => !m.2.below n.2

def Directory.resolve (d : Directory) (options : LookupOptions) (name : String) : Outcome Value :=
  match d.exact name with
  | [item] => .ok item
  | [] =>
    if !options.allowFuzzy then
      fail .conversion s!"No {options.description} named \"{name}\"."
    else
      match ranked ((d.fuzzy name).filter fun m => options.admits m.2) with
      | [] => fail .conversion s!"No {options.description} matches \"{name}\"."
      | best :: others =>
        if others.head?.any fun next => next.2.same best.2 then
          fail .ambiguous
            (s!"Ambiguous {options.description} \"{name}\": "
              ++ s!"several entries score {best.2.twoPlaces}.")
        else .ok best.1
  | items =>
    fail .ambiguous
      s!"Ambiguous {options.description} \"{name}\" matches {items.length} entries."

def Converter.lookup (d : Directory) (options : LookupOptions := {}) : Converter where
  convert v :=
    match v.text? with
    | none => notName v
    | some text =>
      if (Text.trimmed text).isEmpty then notName v
      else .ok (d.resolve options (Text.trimmed text))
where
  notName (v : Value) : Except Fault (Outcome Value) :=
    reject s!"Not a {options.description} name: " v

end LineCommand
