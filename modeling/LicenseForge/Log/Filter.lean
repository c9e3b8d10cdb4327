import LicenseForge.Log.Directive

/-!
# Which events are logged

* `LogFilter` : directives, each with the least level for some events.
* `LogFilter.parse?` : reads directives.
* `LogFilter.admits` : the most specific directive for an event decides about it.
-/

namespace LicenseForge

/-- The directives by which events are logged. -/
abbrev LogFilter := List LogDirective

namespace LogFilter

/-! ### Reading -/

/-- The parts of a text between the commas. -/
def parts : Text → List Text
  | [] => [[]]
  | c :: t =>
    if c = ',' then [] :: parts t
    else match parts t with
      | p :: ps => (c :: p) :: ps
      | [] => [[c]]

/-- Reads directives, with commas between them. Where there is none, errors are logged. -/
def parse? (t : Text) : Option LogFilter := do
  let directives ← ((parts t).filter (!·.isEmpty)).mapM LogDirective.parse?
  return if directives.isEmpty then [{ limit := Level.error.rank }] else directives

/-- The filter for a number of requests for more detail. -/
def ofVerbosity (verbosity : Nat) : LogFilter :=
  let level := match verbosity with
    | 0 => Level.warn
    | 1 => Level.info
    | _ => Level.debug
  [{ limit := level.rank }]

/-- The filter of a run. Directives that cannot be read are as good as none. -/
def ofSettings (verbosity : Nat) (directives : Option Text) : LogFilter :=
  (directives.bind parse?).getD (ofVerbosity verbosity)

/-! ### Filtering -/

/-- The directive that decides about an event. -/
def decisive? (f : LogFilter) (e : Event) : Option LogDirective :=
  match f.filter (·.concerns e) with
  | [] => none
  | d :: ds => some (ds.foldl LogDirective.moreSpecific d)

/-- The event is logged. -/
def admits (f : LogFilter) (e : Event) : Bool :=
  (f.decisive? e).any fun d => e.level.rank ≤ d.limit

end LogFilter

end LicenseForge
