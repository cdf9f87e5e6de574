import RootedStore.Url.Domain.Label

/-!
# Domains

A domain as it is compared and sent: mapped character by character, parted at full stops into labels, and
each label in ASCII.
-/

namespace RootedStore.Url.Domain

def labels? (s : List Char) : Option (List Label) := do
  let mapped := (← s.mapM map?).flatten
  (Path.pieces (· = '.') mapped).mapM Label.ofMapped?

/-- Whether labels can stand together in a domain. -/
def isValid (labels : List Label) : Bool :=
  labels.all (fun l => !l.startsWithMark && joinersFit [] l.read) &&
    (!(labels.any fun l => l.read.any turns) || labels.all fun l => runsOneWay l.read)

def ascii? (s : List Char) : Option (List Char) := do
  let labels ← labels? s
  if isValid labels then some (['.'].intercalate (labels.map (·.written))) else none

end RootedStore.Url.Domain
