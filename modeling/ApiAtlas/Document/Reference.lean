import ApiAtlas.Document

/-!
References by path. A path `#/components/<section>/<name>` points to a component; everything behind
the section is the name. `Reference.name` reads a path for the section that is wanted, and
`Reference.find` gives the component itself.
-/
namespace ApiAtlas

inductive ReferenceError where
  | malformed (path : String)
  | wrongSection (expected found path : String)
  | missing (path : String)
deriving DecidableEq, Repr

namespace ReferenceError

def message : ReferenceError → String
  | .malformed path => "invalid reference format: " ++ path
  | .wrongSection expected found path =>
    "invalid reference format: expected section '" ++ expected ++ "', got '" ++ found ++ "' in "
      ++ path
  | .missing path => "reference target not found: " ++ path

def hint : ReferenceError → String
  | .malformed _ | .wrongSection .. =>
    "Only local references of the form `#/components/<section>/<name>` are supported."
  | .missing _ =>
    "The document references a component it does not define. Report it to the API owner."

end ReferenceError

namespace Reference

def root : List Char := "#/components/".toList

def split? (path : String) : Option (String × String) :=
  if root.isPrefixOf path.toList then
    let rest := path.toList.drop root.length
    match rest.dropWhile (· ≠ '/') with
    | [] => none
    | _ :: name => some (String.ofList (rest.takeWhile (· ≠ '/')), String.ofList name)
  else none

/-- The name that a path gives in a section. -/
def name (section_ path : String) : Except ReferenceError String :=
  match split? path with
  | none => .error (.malformed path)
  | some (found, name) =>
    if found = section_ then .ok name else .error (.wrongSection section_ found path)

theorem split?_eq_some {path section_ name : String} (h : split? path = some (section_, name)) :
    path.toList = root ++ section_.toList ++ '/' :: name.toList := by
  unfold split? at h
  split at h
  next begins =>
    obtain ⟨rest, whole⟩ := List.isPrefixOf_iff_prefix.mp begins
    simp only [← whole, List.drop_left] at h ⊢
    have cut := List.takeWhile_append_dropWhile (p := (· ≠ '/')) (l := rest)
    split at h
    next => simp at h
    next c tail after =>
      have slash : c = '/' := by
        have stop := List.head?_dropWhile_not (· ≠ '/') rest
        rw [after] at stop
        simpa using stop
      subst slash
      obtain ⟨rfl, rfl⟩ := Prod.mk.inj (Option.some.inj h)
      simp only [String.toList_ofList, List.append_assoc]
      rw [← after, cut]
  next => simp at h

/-- A component has one path only. -/
theorem name_injective {section_ key p q : String} (hp : name section_ p = .ok key)
    (hq : name section_ q = .ok key) : p = q := by
  have read (path : String) (h : name section_ path = .ok key) :
      split? path = some (section_, key) := by
    unfold name at h
    split at h
    next => simp at h
    next found key' whole =>
      split at h
      next same => simp_all
      next => simp at h
  apply String.toList_injective
  rw [split?_eq_some (read p hp), split?_eq_some (read q hq)]

/-- Whether a path gives a certain name in a section. -/
def leadsTo (section_ path key : String) : Bool :=
  match name section_ path with
  | .ok found => found == key
  | .error _ => false

theorem leadsTo_iff {section_ path key : String} :
    leadsTo section_ path key = true ↔ name section_ path = .ok key := by
  unfold leadsTo
  split <;> simp_all

/-- The component that a path points to, if it is defined in place. -/
def find (section_ : String) (table : Table (RefOr α)) (path : String) : Except ReferenceError α := do
  match (table.get? (← name section_ path)).bind RefOr.inline? with
  | some a => .ok a
  | none => .error (.missing path)

/-- The entry that a path points to, which may be a reference itself. -/
def lookup? (section_ : String) (table : Table α) (path : String) : Option α :=
  match name section_ path with
  | .ok key => table.get? key
  | .error _ => none

example : split? "#/components/schemas/a/b" = some ("schemas", "a/b") := by decide
example : split? "#/components/schemas" = none := by decide

end Reference
end ApiAtlas
