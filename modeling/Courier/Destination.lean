/-!
# Destinations

A destination is addressed by its name, its kind and whether it is temporary; equal values
address the same place.
-/

namespace Courier

set_option autoImplicit false

inductive DestinationKind
  | queue | topic
  deriving DecidableEq, Repr

def DestinationKind.name : DestinationKind → String
  | .queue => "queue"
  | .topic => "topic"

structure Destination where
  name : String
  kind : DestinationKind
  temporary : Bool := false
  deriving DecidableEq, Repr

namespace Destination

def isQueue (d : Destination) : Bool := d.kind == .queue

def isTopic (d : Destination) : Bool := d.kind == .topic

def text (d : Destination) : String :=
  (if d.temporary then "temporary " else "") ++ d.kind.name ++ "://" ++ d.name

end Destination

end Courier
