import ManagedAgent.Session

/-!
# Routing the parts of an instruction

Each part of an instruction starts a task, unless it asks for nothing new. Configurations and the
settings of each kind of connection go through a slot, so that one task at a time deals with them
and the newest wish wins.
-/

set_option autoImplicit false

namespace ManagedAgent.Session
variable {τ : Type}

/-- An offered configuration, known by the hash of its content if it has no other. -/
def dispatchRemoteConfig (s : Session τ) (config : RemoteConfig) : Session τ :=
  let config := config.withHash
  if s.state.isHandled config then s
  else
    match s.remoteConfig.offer config with
    | (slot, none) => { s with remoteConfig := slot }
    | (slot, some config) => { s with remoteConfig := slot }.spawn (.remoteConfig config .fresh)

def offerSlot (s : Session τ) (kind : ConnectionKind) : Slot ConnectionSettings :=
  (s.offers.get? kind).getD .idle

def setOfferSlot (s : Session τ) (kind : ConnectionKind) (slot : Slot ConnectionSettings) :
    Session τ :=
  { s with offers := s.offers.insert kind slot }

/-- Offered settings; without an endpoint they mean the one in use. -/
def dispatchOffer (s : Session τ) (kind : ConnectionKind) (settings : ConnectionSettings) :
    Session τ :=
  let settings := s.state.connections.complete kind settings
  if s.state.isSettled kind settings then s
  else
    match (s.offerSlot kind).offer settings with
    | (slot, none) => s.setOfferSlot kind slot
    | (slot, some settings) => (s.setOfferSlot kind slot).spawn (.connection kind settings .fresh)

def dispatchPackages (s : Session τ) (packages : PackagesAvailable) : Session τ :=
  let (isNew, state) := s.state.beginSync packages.allHash
  let s := { s with state }
  if isNew then s.spawn (.packages packages .fresh) else s

def dispatchCommand (s : Session τ) (command : Command) : Session τ :=
  s.spawn (.command command .fresh)

/-- Do something with a part, if it is there. -/
def withPart {α : Type} (s : Session τ) (part : Option α) (f : Session τ → α → Session τ) :
    Session τ :=
  match part with
  | some a => f s a
  | none => s

/-- All parts but those that are dealt with at once. -/
def dispatch (s : Session τ) (i : Instruction) : Session τ :=
  let s := s.emit (.routing i)
  let s := s.withPart i.remoteConfig dispatchRemoteConfig
  let s := s.withPart i.connections fun s offers =>
    offers.toList.foldl (fun s o => s.dispatchOffer o.1 o.2) s
  let s := s.withPart i.packages dispatchPackages
  s.withPart i.command dispatchCommand

end ManagedAgent.Session
