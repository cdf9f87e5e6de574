import RootedStore.Manager.Basic
import RootedStore.Manager.Catalog
import RootedStore.Namespace.Basic
import RootedStore.Store.Keyed
import RootedStore.WebHdfs.Client
import RootedStore.WebHdfs.Link

/-!
# Backends

Where the stores that a manager makes keep their content: in one of several namespaces, or behind a
link. A connector says to which of them a new store is connected.
-/

namespace RootedStore

/-- Everything that stores may be connected to. -/
structure Site where
  namespaces : List Namespace
  link : WebHdfs.Link

inductive Connector where
  | namespaceAt (index : Nat)
  | unreachable
  | web
  deriving DecidableEq, Repr

inductive Backend where
  | namespaceAt (index : Nat)
  | web (w : WebHdfs)
  deriving DecidableEq, Repr

namespace Backend

/-- Replies to calls. A namespace that does not exist is not reached. -/
def client : Backend → Client Site
  | .web w => fun c site =>
    let (r, link) := w.client WebHdfs.Link.exchange c site.link
    (r, { site with link })
  | .namespaceAt i => fun c site =>
    match site.namespaces[i]? with
    | none => (.error (.connect "no namenode"), site)
    | some ns =>
      let (r, ns) := Namespace.client c ns
      (r, { site with namespaces := site.namespaces.set i ns })

end Backend

def Connector.connect (o : Options) : Connector → Site → Except ClientError Backend × Site
  | .namespaceAt i, site => (.ok (.namespaceAt i), site)
  | .unreachable, site => (.error (.connect ("namenode " ++ o.namenode ++ " is unreachable")), site)
  | .web, site =>
    let (r, link) := (WebHdfs.connect o).run.run WebHdfs.Link.exchange site.link
    (r.map .web, { site with link })

structure Driver where
  store : Store
  backend : Backend
  deriving DecidableEq, Repr

namespace Driver

def perform (d : Driver) (op : Store.Operation) (site : Site) :
    Except StorageError op.Result × Site :=
  Work.run (d.store.request true op).run d.backend.client .good site

/-- Makes a store from a value that holds its options, connects it, and lists its root. -/
def make (options : Json.Value) (connector : Connector) : StateM Site (Creation Driver) := fun site =>
  match Options.ofValue options with
  | .error e => (.failed e, site)
  | .ok o =>
    match connector.connect o site with
    | (.error e, site) => (.failed (.connect driverName e), site)
    | (.ok backend, site) =>
      let d : Driver := ⟨⟨o⟩, backend⟩
      let (listed, site) := d.perform (.list "/") site
      (.made d (listed.map fun _ => ()), site)

end Driver

end RootedStore
