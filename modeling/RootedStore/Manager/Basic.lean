import RootedStore.Error.Storage
import RootedStore.Table

/-!
# Managers

A manager keeps factories by the type of what they make, the drivers they made by an id, and for an id
the text of what went wrong with it last. A driver that was made is kept even if it does not work; a
driver that could not be made leaves the one before it in place.
-/

namespace RootedStore

/-- Factories of type `F` and drivers of type `D`, by their names. -/
structure Manager (F D : Type) where
  factories : Table F
  drivers : Table D
  errors : Table String

/-- What comes of an attempt to make a driver: none, or one and what the first use of it gave. -/
inductive Creation (D : Type) where
  | failed (e : StorageError)
  | made (driver : D) (firstUse : Except StorageError Unit)

inductive ManagerError where
  | unknownType (type : String)
  | unknownDriver (id : String)
  | creation (e : StorageError)
  deriving Repr

def ManagerError.message : ManagerError → String
  | .unknownType type => "Driver type not found: " ++ type
  | .unknownDriver id => "Driver not found: " ++ id
  | .creation e => e.message

def ManagerError.causes : ManagerError → List String
  | .creation e => e.causes
  | _ => []

namespace Manager

variable {F D : Type}

def empty : Manager F D := ⟨.empty, .empty, .empty⟩

/-- Takes a factory, in place of an earlier one for the type. -/
def register (m : Manager F D) (type : String) (factory : F) : Manager F D :=
  { m with factories := m.factories.insert type factory }

/-- Keeps what came of an attempt to make the driver of an id. -/
def keep (m : Manager F D) (id : String) : Creation D → Except ManagerError String × Manager F D
  | .failed e => (.error (.creation e), { m with errors := m.errors.insert id e.message })
  | .made driver (.ok _) =>
    (.ok id, { m with drivers := m.drivers.insert id driver, errors := m.errors.erase id })
  | .made driver (.error e) =>
    (.ok id, { m with drivers := m.drivers.insert id driver, errors := m.errors.insert id e.message })

def create {M : Type → Type} [Monad M] (m : Manager F D) (id type : String)
    (make : F → M (Creation D)) : M (Except ManagerError String × Manager F D) :=
  match m.factories.find? type with
  | none => pure (.error (.unknownType type), m)
  | some factory => do return m.keep id (← make factory)

def remove (m : Manager F D) (id : String) : Except ManagerError Unit × Manager F D :=
  match m.drivers.find? id with
  | none => (.error (.unknownDriver id), m)
  | some _ => (.ok (), { m with drivers := m.drivers.erase id, errors := m.errors.erase id })

def driver? (m : Manager F D) (id : String) : Option D := m.drivers.find? id

/-- The text of what went wrong with an id last. -/
def error? (m : Manager F D) (id : String) : Option String := m.errors.find? id

end Manager

end RootedStore
