import StreamScalar.Host.Counter
import StreamScalar.Host.RunningSum

/-!
# A host

A host keeps what an application works with under names of its choice: registries, call sites,
counters, stores and snapshot services. Call sites and counters live in cells, so that a service
captures and restores the very component that events reach. Operations on a name that is not in use
answer `none`.
-/

namespace StreamScalar

inductive Component where
  | counter (c : Counter)
  | site (s : CallSite HostFunction)

namespace Component

instance : StateHolder Component where
  serializeState
    | counter c => StateHolder.serializeState c
    | site s => StateHolder.serializeState s
  deserializeState
    | counter c, snapshot => (StateHolder.deserializeState c snapshot).lift counter
    | site s, snapshot => (StateHolder.deserializeState s snapshot).lift site

def site? : Component → Option (CallSite HostFunction)
  | site s => some s
  | counter _ => none

def counter? : Component → Option Counter
  | counter c => some c
  | site _ => none

end Component

/-- A snapshot service and the name of the store that it saves to. -/
structure ServiceEntry where
  service : SnapshotService Nat
  store : String

/-- The named things of an application. Cells are numbered; those from `fresh` on are unused. -/
structure Host where
  registries : Table String (Registry HostFunction) := .empty
  cells : Cells Nat Component := fun _ => .counter ⟨0, none⟩
  fresh : Nat := 0
  sites : Table String Nat := .empty
  counters : Table String Nat := .empty
  stores : Table String Store := .empty
  services : Table String ServiceEntry := .empty
  /-- How many revisions services have captured. -/
  captures : Nat := 0

namespace Host

/-- A host with the default registry under the name `main`. -/
def initial : Host :=
  { registries := Table.empty.insert "main" (Registry.ofConfig {}).next }

/-! ## Registries -/

def setRegistry (host : Host) (name : String) (made : Step (Registry HostFunction) Unit) :
    Step Host (Registry HostFunction) :=
  { answer := made.next
    next := { host with registries := host.registries.insert name made.next }
    log := made.log }

def onRegistry (host : Host) (name : String)
    (work : Registry HostFunction → Step (Registry HostFunction) Unit) :
    Step Host (Option (Registry HostFunction)) :=
  match host.registries.get? name with
  | none => { answer := none, next := host }
  | some registry => (host.setRegistry name (work registry)).map some

/-! ## Call sites and counters -/

def addComponent (host : Host) (component : Component) : Host × Nat :=
  ({ host with cells := host.cells.set host.fresh component, fresh := host.fresh + 1 }, host.fresh)

/-- Builds a call site and keeps it under a name; the site that had the name stays registered where
it is registered. -/
def build (host : Host) (registry : String) (id : String) (qualifiedName : String)
    (arguments : List Argument) (ctx : AppContext) :
    Step Host (Option (Except Error (CallSite HostFunction))) :=
  match host.registries.get? registry with
  | none => { answer := none, next := host }
  | some registry =>
    let built := registry.build qualifiedName arguments ctx
    match built.answer with
    | .error e => { answer := some (.error e), next := host, log := built.log }
    | .ok site =>
      let (host, cell) := host.addComponent (.site site)
      { answer := some (.ok site), next := { host with sites := host.sites.insert id cell }
        log := built.log }

def site? (host : Host) (id : String) : Option (CallSite HostFunction) := do
  (host.cells (← host.sites.get? id)).site?

def counter? (host : Host) (id : String) : Option Counter := do
  (host.cells (← host.counters.get? id)).counter?

def onSite {α : Type} (host : Host) (id : String)
    (work : CallSite HostFunction → Step (CallSite HostFunction) α) : Step Host (Option α) :=
  match host.sites.get? id, host.site? id with
  | some cell, some site =>
    ((work site).lift fun site => { host with cells := host.cells.set cell (.site site) }).map some
  | _, _ => { answer := none, next := host }

/-- Makes the counter of a name, or changes the one there is. -/
def setCounter (host : Host) (id : String) (counter : Counter) : Host :=
  match host.counters.get? id with
  | some cell => { host with cells := host.cells.set cell (.counter counter) }
  | none =>
    let (host, cell) := host.addComponent (.counter counter)
    { host with counters := host.counters.insert id cell }

/-! ## Stores -/

/-- The store of a name, which is there from its first use on. -/
def store (host : Host) (name : String) : Store :=
  (host.stores.get? name).getD .empty

def onStore {α : Type} (host : Host) (name : String) (work : Store → Step Store α) : Step Host α :=
  (work (host.store name)).lift fun store =>
    { host with stores := host.stores.insert name store }

/-- The revision that a text means to a host. -/
def revision (host : Host) (text : String) : Revision := .ofText host.captures text

/-! ## Snapshot services -/

def addService (host : Host) (name app store : String) : Host :=
  { host with services := host.services.insert name ⟨.ofApp app, store⟩ }

/-- Registers the counter of a name, or else the call site of that name, with a service. -/
def register (host : Host) (name id registeredName : String) : Step Host (Option Unit) :=
  match host.services.get? name, (host.counters.get? id).or (host.sites.get? id) with
  | some entry, some cell =>
    ((entry.service.register registeredName cell).lift fun service =>
      { host with services := host.services.insert name { entry with service } }).map some
  | _, _ => { answer := none, next := host }

def persist (host : Host) (name : String) :
    Step Host (Option (Except PersistenceError PersistReport)) :=
  match host.services.get? name with
  | none => { answer := none, next := host }
  | some entry =>
    ((entry.service.persistNext host.cells .asListed .asListed .made host.captures
      (host.store entry.store)).lift fun (store, captures) =>
        { host with stores := host.stores.insert entry.store store, captures }).map some

def restore (host : Host) (name : String) (revision : Revision) :
    Step Host (Option (Except Error Unit)) :=
  match host.services.get? name with
  | none => { answer := none, next := host }
  | some entry =>
    ((entry.service.restoreRevision host.cells .asListed (host.store entry.store) revision).lift
      fun cells => { host with cells }).map some

def restoreLast (host : Host) (name : String) :
    Step Host (Option (Except Error (Option Revision))) :=
  match host.services.get? name with
  | none => { answer := none, next := host }
  | some entry =>
    ((entry.service.restoreLastRevision host.cells .asListed (host.store entry.store)).lift
      fun cells => { host with cells }).map some

end Host

end StreamScalar
