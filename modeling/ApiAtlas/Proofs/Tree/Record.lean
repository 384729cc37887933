import ApiAtlas.Proofs.Tree.Lossless

/-! Records that are written and read. A writer lists the fields in order of declaration and leaves out those
without a value (`Member.present`), so that every field is found again under its name (`Tree.Found`). From
this each kind of field has a rule: what a reader took from the field of some record it takes again from the
field that was written. -/
namespace ApiAtlas

variable {α β : Type} {name : String}

namespace Member

/-- The members of a written record: its fields in order, those without a value left out. -/
def present (fields : List (String × Option Json)) : List (String × Json) :=
  fields.filterMap fun f => f.2.map fun v => (f.1, v)

def unlessEmpty (write : List α → Json) (items : List α) : Option Json :=
  if items.isEmpty then none else some (write items)

variable (name)

theorem always_eq (v : Json) : always name v = present [(name, some v)] := rfl

theorem option_eq (write : α → Json) (o : Option α) : option name write o = present [(name, o.map write)] := by
  cases o <;> rfl

theorem list_eq (write : α → Json) (items : List α) :
    list name write items = present [(name, unlessEmpty (listed write) items)] := by
  cases items <;> rfl

theorem table_eq (write : α → Json) (entries : Table α) :
    table name write entries = present [(name, unlessEmpty (tabled write) entries)] := by
  cases entries <;> rfl

theorem present_append (fields others : List (String × Option Json)) :
    present fields ++ present others = present (fields ++ others) := List.filterMap_append.symm

variable {name} {fields : List (String × Option Json)}

theorem names_present (fields : List (String × Option Json)) :
    ((present fields).map Prod.fst).Sublist (fields.map Prod.fst) := by
  induction fields with
  | nil => exact .slnil
  | cons f rest ih =>
    obtain ⟨name, v⟩ := f
    cases v with
    | none => exact .cons _ ih
    | some v => exact .cons_cons _ ih

theorem lookup_present (distinct : (fields.map Prod.fst).Nodup) {v : Option Json} (member : (name, v) ∈ fields) :
    (present fields).lookup name = v := by
  induction fields with
  | nil => contradiction
  | cons f rest ih =>
    obtain ⟨first, w⟩ := f
    obtain ⟨new, others⟩ := List.nodup_cons.mp distinct
    rcases List.mem_cons.mp member with same | later
    · obtain ⟨rfl, rfl⟩ := Prod.mk.inj same
      cases v with
      | none =>
        refine List.lookup_eq_none_iff.mpr fun m inside => ?_
        have stands : m.1 ∈ rest.map Prod.fst := (names_present rest).subset (List.mem_map_of_mem inside)
        exact bne_iff_ne.mpr fun same => new (same ▸ stands)
      | some v => exact List.lookup_cons_self
    · have other : (name == first) = false := by
        refine beq_eq_false_iff_ne.mpr fun same => new ?_
        have stands : name ∈ rest.map Prod.fst := List.mem_map.mpr ⟨(name, v), later, rfl⟩
        exact same ▸ stands
      cases w with
      | none => exact ih others later
      | some w =>
        have behind := ih others later
        simpa only [present, List.filterMap_cons, Option.map_some, List.lookup_cons, other] using behind

end Member

namespace Tree

open Member

/-- Fields as they are read from a written record: each one under its name. -/
def Found (fields : List (String × Option Json)) (found : List (String × Tree)) : Prop :=
  ∀ name v, (name, v) ∈ fields → found.lookup name = v.map ofJson

theorem Found.at {fields : List (String × Option Json)} {found : List (String × Tree)} (f : Found fields found)
    {v : Option Json} (i : Nat) (stands : fields[i]? = some (name, v)) : found.lookup name = v.map ofJson :=
  f name v (List.mem_of_getElem? stands)

/-- All members of a written record are fields. -/
theorem fields?_ofMembers {names : List String} {members : List (String × Json)}
    (known : ∀ m ∈ members, m.1 ∈ names) (distinct : (members.map Prod.fst).Nodup) :
    fields? names (ofMembers members) = some (members.map fun m => (m.1, ofJson m.2)) := by
  induction members with
  | nil => rfl
  | cons m rest ih =>
    obtain ⟨first, known⟩ := List.forall_mem_cons.mp known
    obtain ⟨new, distinct⟩ := List.nodup_cons.mp distinct
    have absent : (rest.map fun m => (m.1, ofJson m.2)).lookup m.1 = none := by
      refine List.lookup_eq_none_iff.mpr fun f inside => ?_
      obtain ⟨n, stands, rfl⟩ := List.mem_map.mp inside
      exact bne_iff_ne.mpr fun same => new (same ▸ List.mem_map_of_mem stands)
    simp [ofMembers, fields?, ih known distinct, field?, first, absent]

theorem fields?_present {names : List String} {fields : List (String × Option Json)} (distinct : names.Nodup)
    (ordered : fields.map Prod.fst = names) :
    ∃ found, fields? names (ofMembers (present fields)) = some found ∧ Found fields found := by
  subst ordered
  have sub := names_present fields
  refine ⟨_, fields?_ofMembers (fun m inside => sub.subset (List.mem_map_of_mem inside))
    (sub.nodup distinct), fun name v member => ?_⟩
  rw [Table.lookup_map, lookup_present distinct member]

/-- A record with known fields: its reader and writer fit if what was taken from the fields of some record is
taken again from the fields that are written for it. -/
theorem LosslessOn.record {names : List String} {least : Nat} {read : Tree → Option α} {write : α → Json}
    {take : List (String × Tree) → Option α} {fields : α → List (String × Option Json)}
    (reads : ∀ t, read t = (t.record? names least).bind take)
    (writes : ∀ a, write a = .obj (present (fields a)))
    (distinct : names.Nodup) (ordered : ∀ a, (fields a).map Prod.fst = names)
    (takes : ∀ {given found a}, (∀ f ∈ given, f.2.isFinite = true) → take given = some a →
      Found (fields a) found → take found = some a) : Lossless read write := by
  refine .of_solid (fun a => by rw [writes]; rfl) fun {t} finite a taken => ?_
  rw [reads] at taken
  obtain ⟨given, known, taken⟩ := Option.bind_eq_some_iff.mp taken
  obtain ⟨found, again, whole⟩ := fields?_present distinct (ordered a)
  rw [reads, writes, ofJson, record?, members?, Option.bind_some, again, Option.bind_some]
  exact takes (isFinite_record? finite known) taken whole

/-- A reader of several fields gives a result if every step gives one; used from the outside in. -/
theorem steps_iff {x : Option β} {rest : β → Option α} {a : α} :
    (x >>= rest) = some a ↔ ∃ b, x = some b ∧ rest b = some a := Option.bind_eq_some_iff

/-! Fields of each kind. -/
namespace LosslessOn

variable {kind : Tree → Prop} {read : Tree → Option α} {write : α → Json} {given found : List (String × Tree)} {a : α}
  {o : Option α}

theorem optional (fits : LosslessOn kind read write) (inside : ∀ f ∈ given, kind f.2)
    (taken : optional given name read = some o) (again : found.lookup name = (o.map write).map ofJson) :
    Tree.optional found name read = some o := by
  unfold Tree.optional at taken ⊢
  rw [again]
  cases o with
  | none => rfl
  | some a =>
    split at taken
    next => cases taken
    next t stands =>
      simp only [Option.bind_eq_bind, Option.bind_eq_some_iff] at taken
      obtain ⟨absent, missing, taken⟩ := taken
      cases absent with
      | true => simp at taken
      | false =>
        have read : read t = some a := by simpa [Option.bind_eq_some_iff] using taken
        have inside := inside _ (Table.mem_of_get? stands)
        have solid : (write a).isNull = false := by
          refine Bool.eq_false_iff.mpr fun null => ?_
          obtain rfl := fits.null inside read null
          contradiction
        simp [absent?_ofJson, solid, fits.restores inside a read]

theorem required (fits : LosslessOn kind read write) (inside : ∀ f ∈ given, kind f.2)
    (taken : required given name read = some a) (again : found.lookup name = (some (write a)).map ofJson) :
    Tree.required found name read = some a := by
  obtain ⟨t, stands, taken⟩ := Option.bind_eq_some_iff.mp taken
  rw [Tree.required, again]
  exact fits.restores (inside _ (Table.mem_of_get? stands)) a taken

/-- A field with a default that is always written. -/
theorem defaulted (fits : LosslessOn kind read write) (inside : ∀ f ∈ given, kind f.2) {d : α}
    (default : read (ofJson (write d)) = some d) (taken : defaulted given name d read = some a)
    (again : found.lookup name = (some (write a)).map ofJson) : Tree.defaulted found name d read = some a := by
  unfold Tree.defaulted at taken ⊢
  rw [again]
  split at taken
  next t stands => exact fits.restores (inside _ (Table.mem_of_get? stands)) a taken
  next =>
    obtain rfl := Option.some.inj taken
    exact default

/-- A list or a table that is not written if it is empty. -/
theorem unlessEmpty {read : Tree → Option (List α)} {write : List α → Json} (fits : LosslessOn kind read write)
    (inside : ∀ f ∈ given, kind f.2) {as : List α} (taken : Tree.defaulted given name [] read = some as)
    (again : found.lookup name = (Member.unlessEmpty write as).map ofJson) :
    Tree.defaulted found name [] read = some as := by
  unfold Tree.defaulted at taken ⊢
  rw [again]
  cases as with
  | nil => rfl
  | cons a as =>
    split at taken
    next t stands => exact fits.restores (inside _ (Table.mem_of_get? stands)) _ taken
    next => cases taken

end LosslessOn

end Tree
end ApiAtlas
