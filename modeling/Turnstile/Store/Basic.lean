import Turnstile.Account.User
import Turnstile.Account.Session
import Turnstile.Account.Attempt
import Turnstile.Policy.Catalog

/-!
What the services ask of stores. A store is a state and a record of steps on it; a step sees the time
and may fail, and also a failed step says what the store is like afterwards. Services are written
against these records, so every store that can be given as such a record can be used.
-/

namespace Turnstile

/-- A step of a store: what comes of it, and the store afterwards. -/
abbrev StoreStep (σ α : Type) := Instant → σ → Except Failure α × σ

structure UserStore (σ : Type) where
  find : Int → StoreStep σ (Option User)
  findByEmail : String → StoreStep σ (Option User)
  findByPhone : String → StoreStep σ (Option User)
  create : NewUser → StoreStep σ User
  setStatus : Int → UserStatus → StoreStep σ Unit
  checkHealth : StoreStep σ Unit

structure SessionStore (σ : Type) where
  create : Session → StoreStep σ Unit
  find : String → StoreStep σ (Option Session)
  /-- A session that is not there is no failure. -/
  delete : String → StoreStep σ Unit
  touch : String → Instant → StoreStep σ Unit

structure AttemptStore (σ : Type) where
  find : Int → StoreStep σ (Option LoginAttempt)
  /-- Keep a record for so many seconds; with none left it is deleted. -/
  put : Int → LoginAttempt → Int → StoreStep σ Unit
  checkHealth : StoreStep σ Unit

/-- Roles, permissions, resources and the links between them. A link that is added twice or removed
where it is missing is no failure. -/
structure PolicyStore (σ : Type) where
  createRole : NamedEntry → List Int → StoreStep σ Role
  updateRole : Int → NamedEntry → StoreStep σ Role
  deleteRole : Int → StoreStep σ Unit
  findRoleByName : String → StoreStep σ (Option Role)
  createPermission : NamedEntry → List Int → StoreStep σ Permission
  updatePermission : Int → NamedEntry → StoreStep σ Permission
  deletePermission : Int → StoreStep σ Unit
  createResource : NewResource → StoreStep σ Resource
  updateResource : Int → NewResource → StoreStep σ Resource
  deleteResource : Int → StoreStep σ Unit
  assignPermissions : Int → List Int → StoreStep σ Unit
  removePermissions : Int → List Int → StoreStep σ Unit
  assignResources : Int → List Int → StoreStep σ Unit
  removeResources : Int → List Int → StoreStep σ Unit
  assignRole : Int → Int → StoreStep σ Unit
  revokeRole : Int → Int → StoreStep σ Unit
  grants : ServiceType → StoreStep σ (List Grant)
  /-- The roles of a user by their identifiers. -/
  rolesOf : Int → StoreStep σ (List Role)
  permissionsOf : Int → StoreStep σ (List Permission)
  allPermissions : StoreStep σ (List Permission)

/-- All stores of a service, over one state. -/
structure Stores (σ : Type) where
  users : UserStore σ
  sessions : SessionStore σ
  attempts : AttemptStore σ
  policies : PolicyStore σ

end Turnstile
