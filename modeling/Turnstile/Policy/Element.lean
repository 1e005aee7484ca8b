import Turnstile.Error

/-!
Identifiers of protected routes: a method and a path with a vertical bar between them. The first bar
divides, so the path may hold bars.
-/

namespace Turnstile

structure ElementId where
  method : String
  path : String
  deriving DecidableEq, Repr

namespace ElementId

def text (e : ElementId) : String := e.method ++ "|" ++ e.path

/-- Both parts have to be there. -/
def ofText (s : String) : Except ServiceError ElementId :=
  let method := s.toList.takeWhile (· ≠ '|')
  let path := (s.toList.dropWhile (· ≠ '|')).drop 1
  if method.isEmpty || path.isEmpty then .error (.invalidElementId s)
  else .ok ⟨String.ofList method, String.ofList path⟩

end ElementId

end Turnstile
