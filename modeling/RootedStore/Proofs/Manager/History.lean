import Mathlib.Data.List.Induction
import RootedStore.Manager.Backend

/-!
# What a manager knows

A manager is asked to take factories, to make drivers and to give them up. After any number of such requests
each of its maps holds what the latest request that bears on it left there: for a type the factory taken last, for
an id the driver made last, unless it was given up since, and the text of what went wrong, if the latest attempt
went wrong and was not given up since.
-/
namespace RootedStore

section latest

variable {α : Type} {among holds : α → Prop}

end latest

/-- How the drivers of a factory come about in a world, and how they list what is at a path. -/
structure Craft (W F D : Type) where
  construct : F → Json.Value → StateM W (Except StorageError D)
  list : D → String → StateM W (Except StorageError (List String))

/-- Constructs a driver and lists its root. -/
def Craft.make {W F D : Type} (craft : Craft W F D) (options : Json.Value) (factory : F) :
    StateM W (Creation D) := fun world =>
  match craft.construct factory options world with
  | (.error e, world) => (.failed e, world)
  | (.ok driver, world) =>
    let (listed, world) := craft.list driver "/" world
    (.made driver (listed.map fun _ => ()), world)

/-- Stores are constructed from accepted options on what their connector leads to. -/
def Driver.craft : Craft Site Connector Driver where
  construct connector options site :=
    match Options.ofValue options with
    | .error e => (.error e, site)
    | .ok o =>
      match connector.connect o site with
      | (.error e, site) => (.error (.connect driverName e), site)
      | (.ok backend, site) => (.ok ⟨⟨o⟩, backend⟩, site)
  list driver path site := driver.perform (.list path) site

theorem Driver.make_eq (options : Json.Value) (connector : Connector) :
    make options connector = craft.make options connector := by
  funext site
  simp only [make, Craft.make, craft]
  cases Options.ofValue options with
  | error e => rfl
  | ok o =>
    dsimp only
    obtain ⟨r, after⟩ := connector.connect o site
    cases r with
    | error e => rfl
    | ok backend => rfl

namespace Manager

variable {W F D : Type}

/-- What is asked of a manager. A creation comes with the world that it finds. -/
inductive Request (W F : Type) where
  | register (type : String) (factory : F)
  | create (id type : String) (options : Json.Value) (world : W)
  | remove (id : String)

/-- What happens at a request. -/
inductive Event (F D : Type) where
  | registered (type : String) (factory : F)
  | refused (id type : String)
  | attempted (id : String) (creation : Creation D)
  | removed (id : String)
  | absent (id : String)

def Event.answer : Event F D → Except ManagerError (Option String)
  | .registered _ _ | .removed _ => .ok none
  | .refused _ type => .error (.unknownType type)
  | .attempted _ (.failed e) => .error (.creation e)
  | .attempted id (.made _ _) => .ok (some id)
  | .absent id => .error (.unknownDriver id)

def serve (craft : Craft W F D) (m : Manager F D) :
    Request W F → Except ManagerError (Option String) × Manager F D
  | .register type factory => (.ok none, m.register type factory)
  | .create id type options world =>
    let (answer, m) := (m.create id type (craft.make options) world).1
    (answer.map some, m)
  | .remove id =>
    let (answer, m) := m.remove id
    (answer.map fun _ => none, m)

/-- What happens if a manager is asked something. -/
def event (craft : Craft W F D) (m : Manager F D) : Request W F → Event F D
  | .register type factory => .registered type factory
  | .create id type options world =>
    match m.factories.find? type with
    | none => .refused id type
    | some factory => .attempted id (craft.make options factory world).1
  | .remove id =>
    match m.driver? id with
    | none => .absent id
    | some _ => .removed id

def run (craft : Craft W F D) (requests : List (Request W F)) : Manager F D :=
  requests.foldl (fun m r => (m.serve craft r).2) empty

def eventsFrom (craft : Craft W F D) (m : Manager F D) : List (Request W F) → List (Event F D)
  | [] => []
  | r :: requests => m.event craft r :: eventsFrom craft (m.serve craft r).2 requests

def events (craft : Craft W F D) (requests : List (Request W F)) : List (Event F D) :=
  eventsFrom craft empty requests

variable {craft : Craft W F D} {m : Manager F D}

@[simp] theorem factories_keep (id : String) (creation : Creation D) :
    (m.keep id creation).2.factories = m.factories := by
  cases creation with
  | failed error => rfl
  | made driver firstUse => cases firstUse <;> rfl

@[simp] theorem drivers_keep_failed (id : String) (error : StorageError) :
    (m.keep id (.failed error)).2.drivers = m.drivers := rfl

@[simp] theorem drivers_keep_made (id : String) (driver : D) (firstUse : Except StorageError Unit) :
    (m.keep id (.made driver firstUse)).2.drivers = m.drivers.insert id driver := by
  cases firstUse <;> rfl

end Manager

end RootedStore
