import LicenseForge.Dialog.Basic
import LicenseForge.License.Filling

/-!
# Asking for what a license leaves open

`Dialog.complete` finds the copyright holder and the year of a license: given beforehand, asked for
if the text needs them, or left to their substitutes.
-/

namespace LicenseForge.Dialog

/-- What the question for the copyright holder is called. -/
def holderQuestion : Text := "Name".toList

/-- The copyright holder: given beforehand, or asked for. -/
def findHolder (d : Dialog) (l : License) (given : Option Text) (asks : Bool) :
    Except StreamError (Option Text) × Dialog :=
  match given with
  | some h => (.ok (some h), d)
  | none =>
    if l.needs .holder && asks then
      match d.ask holderQuestion none with
      | (.ok h, d) => (.ok (some h), d)
      | (.error e, d) => (.error e, d)
    else (.ok none, d)

/-- The year: given beforehand, or asked for. -/
def findYear (d : Dialog) (l : License) (given : Option Text) (asks : Bool) (now : Int) :
    Reply (Option Text) × Dialog :=
  match given with
  | some y => (.given (some y), d)
  | none =>
    if l.needs .year && asks then
      match d.askYear now with
      | (.given y, d) => (.given (some y), d)
      | (.failed e, d) => (.failed e, d)
      | (.endless, d) => (.endless, d)
    else (.given none, d)

/-- Reports a text that names no copyright holder where one belongs. -/
def noteHolder (d : Dialog) (l : License) (holder : Option Text) : Dialog :=
  if holder.isNone && l.needs .holder then d.report (.unnamedHolder Filling.unnamed) else d

/-- Finds what the license leaves open. An empty name is no name. -/
def complete (d : Dialog) (l : License) (given : Filling) (asks : Bool) (now : Int) :
    Reply Filling × Dialog :=
  match d.findHolder l given.holder asks with
  | (.error e, d) => (.failed e, d)
  | (.ok holder, d) =>
    let holder := holder.filter (!·.isEmpty)
    match (d.noteHolder l holder).findYear l given.year asks now with
    | (.given year, d) => (.given { holder, year }, d)
    | (.failed e, d) => (.failed e, d)
    | (.endless, d) => (.endless, d)

end LicenseForge.Dialog
