import Downloads.Record.Code

/-!
# Network policy

Which downloads may use the network, given what is known of it.
-/

namespace Downloads

/-- The kind of the active network. -/
inductive NetworkType where
  | none
  | mobile
  | wifi
  | ethernet
  | bluetooth
  | other
  deriving Repr, DecidableEq

namespace NetworkType

def all : List NetworkType := [.none, .mobile, .wifi, .ethernet, .bluetooth, .other]

def name : NetworkType → String
  | .none => "none"
  | .mobile => "mobile"
  | .wifi => "wifi"
  | .ethernet => "ethernet"
  | .bluetooth => "bluetooth"
  | .other => "other"

def ofName? (s : String) : Option NetworkType := all.find? fun t => t.name == s

def ofJson? (v : Json) : Option NetworkType := v.name?.bind ofName?

/-- The wording for a text that names no kind. -/
def unknownMessage (s : String) : String := "invalid network type: " ++ s

theorem ofName?_name (t : NetworkType) : ofName? t.name = some t := by cases t <;> decide

end NetworkType

instance : Inhabited NetworkType := ⟨.none⟩

/-- What is known of the network. -/
structure Connectivity where
  available : Bool
  roaming : Bool
  networkType : NetworkType
  deriving Repr, DecidableEq

namespace Connectivity

/-- A network that is there and does not roam. -/
def online (networkType : NetworkType) : Connectivity := ⟨true, false, networkType⟩

def offline : Connectivity := ⟨false, false, .none⟩

/-- Whether a download for the destination may use the network now: one destination refuses
roaming, and none works without a network. -/
def allows (n : Connectivity) (destination : Destination) : Bool :=
  n.available && (destination != .cacheNoRoaming || !n.roaming)

end Connectivity

end Downloads
