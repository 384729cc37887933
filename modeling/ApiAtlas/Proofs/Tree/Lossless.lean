import ApiAtlas.Document.Schema
import ApiAtlas.Proofs.Json.Sorted
import ApiAtlas.Proofs.Table
import ApiAtlas.Proofs.Tree.Finite

/-! Readers and writers that fit. What such a reader takes from a tree with finite numbers it takes again from
the value that is written for it. Readers of texts, numbers and values of any form fit their writers, and lists,
tables and records of what fits do. A record is written with its fields in order of declaration, and so every
field is found again under its name. -/
namespace ApiAtlas

variable {α β : Type}

/-- What a traversal gives comes from what it was given. -/
theorem exists_of_mem_mapM {f : α → Option β} {as : List α} {bs : List β} (given : as.mapM f = some bs) {b : β}
    (member : b ∈ bs) : ∃ a ∈ as, f a = some b := by
  induction as generalizing bs with
  | nil =>
    cases given
    contradiction
  | cons a as ih =>
    simp only [List.mapM_cons, Option.bind_eq_bind, Option.bind_eq_some_iff, Option.pure_def,
      Option.some.injEq] at given
    obtain ⟨c, first, cs, others, rfl⟩ := given
    rcases List.mem_cons.mp member with rfl | later
    · exact ⟨a, List.mem_cons_self, first⟩
    · obtain ⟨a, inside, same⟩ := ih others later
      exact ⟨a, List.mem_cons_of_mem _ inside, same⟩

theorem mapM_map_eq_some {f : β → Option α} {g : α → β} {as : List α} (each : ∀ a ∈ as, f (g a) = some a) :
    (as.map g).mapM f = some as := by
  induction as with
  | nil => rfl
  | cons a as ih =>
    obtain ⟨first, others⟩ := List.forall_mem_cons.mp each
    simp [first, ih others]

theorem Json.real_of_finite {x : Binary64} (finite : x.isFinite = true) : Json.real x = .num (.real x) :=
  if_pos finite

namespace Member

def listed (write : α → Json) (as : List α) : Json := .arr (as.map write)

def tabled (write : α → Json) (entries : Table α) : Json := .obj (entries.map fun (k, a) => (k, write a))

end Member

namespace Tree

open Member

theorem ofItems_eq (items : List Json) : ofItems items = items.map ofJson := by
  induction items with
  | nil => rfl
  | cons a rest ih => rw [ofItems, ih, List.map_cons]

theorem ofMembers_eq (members : List (String × Json)) :
    ofMembers members = members.map fun m => (.str m.1, ofJson m.2) := by
  induction members with
  | nil => rfl
  | cons m rest ih => rw [ofMembers, ih, List.map_cons]

theorem ofJson_arr (items : List Json) : ofJson (.arr items) = .list none (items.map ofJson) := by
  rw [ofJson, ofItems_eq]

theorem ofJson_obj (members : List (String × Json)) :
    ofJson (.obj members) = .record none (members.map fun m => (.str m.1, ofJson m.2)) := by
  rw [ofJson, ofMembers_eq]

/-- A written value is missing only if it is null. -/
theorem absent?_ofJson (v : Json) : (ofJson v).absent? = some v.isNull := by
  cases v <;> rfl

mutual
/-- A written value is settled. -/
theorem settle_ofJson : ∀ v : Json, (ofJson v).settle = some (ofJson v)
  | .null | .bool _ | .num _ | .str _ => rfl
  | .arr items => by
    rw [ofJson, settle, settleItems_ofItems items]
    rfl
  | .obj members => by
    rw [ofJson, settle, settleMembers_ofMembers members]
    rfl
theorem settleItems_ofItems : ∀ items : List Json, settleItems (ofItems items) = some (ofItems items)
  | [] => rfl
  | a :: rest => by
    rw [ofItems, settleItems, settle_ofJson a, settleItems_ofItems rest]
    rfl
theorem settleMembers_ofMembers : ∀ members : List (String × Json),
    settleMembers (ofMembers members) = some (ofMembers members)
  | [] => rfl
  | (k, a) :: rest => by
    rw [ofMembers, settleMembers, settle_ofJson a, settleMembers_ofMembers rest]
    rfl
end

/-- What is read from a tree is read again from the value that is written for it. -/
def Restores (read : Tree → Option α) (write : α → Json) (t : Tree) : Prop :=
  ∀ a, read t = some a → read (ofJson (write a)) = some a

/-- A reader and a writer that fit on the trees of a kind. Null is written for null only. -/
structure LosslessOn (kind : Tree → Prop) (read : Tree → Option α) (write : α → Json) : Prop where
  restores : ∀ {t}, kind t → Restores read write t
  null : ∀ {t a}, kind t → read t = some a → (write a).isNull = true → t = .null

abbrev Lossless (read : Tree → Option α) (write : α → Json) : Prop :=
  LosslessOn (fun t => t.isFinite = true) read write

/-- A kind of trees that goes with a tree to its items and values. -/
structure Closed (kind : Tree → Prop) : Prop where
  item : ∀ {tag items t}, kind (.list tag items) → t ∈ items → kind t
  value : ∀ {tag members m}, kind (.record tag members) → m ∈ members → kind m.2

theorem closed_finite : Closed fun t => t.isFinite = true :=
  ⟨fun finite => isFinite_list.mp finite _, fun finite => isFinite_record.mp finite _⟩

/-- A writer that never gives null. -/
def Solid (write : α → Json) : Prop := ∀ a, (write a).isNull = false

theorem LosslessOn.of_solid {kind : Tree → Prop} {read : Tree → Option α} {write : α → Json}
    (solid : Solid write) (restores : ∀ {t}, kind t → Restores read write t) : LosslessOn kind read write :=
  ⟨restores, fun _ _ null => absurd null (by simp [solid _])⟩

/-! Scalars. -/

theorem lossless_text : Lossless text? .str := .of_solid (fun _ => rfl) fun _ _ _ => rfl

theorem lossless_bool : Lossless bool? .bool := .of_solid (fun _ => rfl) fun _ _ _ => rfl

theorem lossless_word : Lossless word? .nat :=
  .of_solid (fun _ => rfl) fun _ n _ => by simp [Json.nat, ofJson, word?]

theorem double?_eq_some {t : Tree} {x : Binary64} (finite : t.isFinite = true) (read : double? t = some x) :
    x.isFinite = true := by
  cases t with
  | num n =>
    obtain rfl := Option.some.inj read
    rwa [isFinite_num] at finite
  | _ => contradiction

theorem lossless_double : Lossless double? .real := by
  constructor
  · intro t finite x read
    rw [Json.real_of_finite (double?_eq_some finite read)]
    rfl
  · intro t x finite read null
    rw [Json.real_of_finite (double?_eq_some finite read)] at null
    contradiction

/-- A name of a set, kept as what it stands for. -/
theorem lossless_oneOf {all : List α} {text : α → String} (complete : ∀ a, a ∈ all)
    (distinct : (all.map text).Nodup) :
    Lossless (fun t => (oneOf? (all.map text) t).bind fun s => all.find? (text · = s)) fun a => .str (text a) := by
  refine .of_solid (fun _ => rfl) fun _ a _ => ?_
  have known : text a ∈ all.map text := List.mem_map_of_mem (complete a)
  obtain ⟨b, found⟩ : ∃ b, all.find? (text · = text a) = some b :=
    Option.isSome_iff_exists.mp (List.find?_isSome.mpr ⟨a, complete a, decide_eq_true rfl⟩)
  have same : text b = text a := by simpa using List.find?_some found
  obtain rfl := List.inj_on_of_nodup_map distinct (complete b) (complete a) same
  simp only [ofJson, oneOf?, known, if_true, Option.bind_some, found]

/-! Lists and tables. -/

section Collections

variable {kind : Tree → Prop} {read : Tree → Option α} {write : α → Json}

theorem restores_mapM {items : List Tree} (each : ∀ t ∈ items, Restores read write t) {as : List α}
    (given : items.mapM read = some as) : ((as.map write).map ofJson).mapM read = some as := by
  rw [List.map_map]
  refine mapM_map_eq_some fun a member => ?_
  obtain ⟨t, inside, same⟩ := exists_of_mem_mapM given member
  exact each t inside a same

variable (write) in
/-- The pairs of a table, read again from what is written for the table. -/
theorem restores_ofPairs {members : List (Tree × Tree)} {readPair : Tree × Tree → Option (String × α)}
    {pairs : List (String × α)}
    (each : ∀ m ∈ members, ∀ p, readPair m = some p → readPair (.str p.1, ofJson (write p.2)) = some p)
    (given : members.mapM readPair = some pairs) :
    ((Table.ofPairs pairs).map fun p => (Tree.str p.1, ofJson (write p.2))).mapM readPair
      = some (Table.ofPairs pairs) := by
  refine mapM_map_eq_some fun p member => ?_
  obtain ⟨before, after, whole, -⟩ := (Table.mem_ofPairs_iff pairs).mp member
  have inside : p ∈ pairs := whole ▸ List.mem_append_right _ List.mem_cons_self
  obtain ⟨m, stands, same⟩ := exists_of_mem_mapM given inside
  exact each m stands p same

theorem LosslessOn.list (closed : Closed kind) (fits : LosslessOn kind read write) :
    LosslessOn kind (list? read) (listed write) := by
  refine .of_solid (fun _ => rfl) fun {t} inside as given => ?_
  rw [listed, ofJson_arr]
  unfold list? at given ⊢
  split at given
  next items => exact restores_mapM (fun t member => fits.restores (closed.item inside member)) given
  next =>
    split at given
    · cases given
      rfl
    · contradiction
  next => contradiction

theorem LosslessOn.table (closed : Closed kind) (fits : LosslessOn kind read write) :
    LosslessOn kind (table? read) (tabled write) := by
  refine .of_solid (fun _ => rfl) fun {t} inside entries given => ?_
  rw [tabled, ofJson_obj, List.map_map]
  unfold table? at given ⊢
  split at given
  next members =>
    obtain ⟨pairs, mapped, rfl⟩ := Option.map_eq_some_iff.mp given
    have again := restores_ofPairs write (fun m member p same => by
      simp only [Option.bind_eq_bind, Option.bind_eq_some_iff, Option.pure_def, Option.some.injEq] at same ⊢
      obtain ⟨k, -, a, same, rfl⟩ := same
      exact ⟨k, rfl, a, fits.restores (closed.value inside member) a same, rfl⟩) mapped
    simp only [Function.comp_def, again, Option.map_some,
      Table.ofPairs_eq_self (Table.nodup_keys_ofPairs pairs)]
  next =>
    split at given
    · cases given
      rfl
    · contradiction
  next => contradiction

theorem Lossless.list (fits : Lossless read write) : Lossless (list? read) (listed write) :=
  LosslessOn.list closed_finite fits

theorem Lossless.table (fits : Lossless read write) : Lossless (table? read) (tabled write) :=
  LosslessOn.table closed_finite fits

end Collections

/-- A reader of settled trees that reads trees of any form. -/
theorem LosslessOn.settled {read : Tree → Option α} {write : α → Json} (fits : Lossless read write)
    (solid : Solid write) : Lossless (fun t => t.settle.bind read) write := by
  refine .of_solid solid fun finite a given => ?_
  obtain ⟨u, settled, given⟩ := Option.bind_eq_some_iff.mp given
  rw [settle_ofJson, Option.bind_some]
  exact fits.restores (isFinite_settle finite settled) a given

/-! Values of any form. -/

theorem toMembers?_ofMembers {members : List (String × Json)}
    (each : ∀ m ∈ members, (ofJson m.2).toJson? = some m.2) : toMembers? (ofMembers members) = some members := by
  induction members with
  | nil => rfl
  | cons m rest ih =>
    obtain ⟨first, others⟩ := List.forall_mem_cons.mp each
    rw [ofMembers, toMembers?, first, ih others]
    rfl

theorem toJson?_num {n : Number} (finite : (Tree.num n).isFinite = true) :
    (Tree.num n).toJson? = some (.num n) := by
  cases n with
  | whole n => rfl
  | real x =>
    rw [isFinite_real] at finite
    rw [toJson?, Json.real_of_finite finite]

mutual
theorem restores_toJson? : ∀ {t : Tree}, t.isFinite = true → Restores toJson? id t
  | .null, _, _, given | .bool _, _, _, given | .str _, _, _, given => by
    cases given
    rfl
  | .num n, finite, _, given => by
    obtain rfl := Option.some.inj (toJson?_num finite ▸ given)
    exact toJson?_num finite
  | .text .., _, _, given | .unreadable, _, _, given => nomatch given
  | .list _ items, finite, _, given => by
    obtain ⟨vs, read, rfl⟩ := Option.map_eq_some_iff.mp given
    rw [id, ofJson, toJson?, restores_toItems? finite read]
    rfl
  | .record _ members, finite, _, given => by
    obtain ⟨ms, read, rfl⟩ := Option.map_eq_some_iff.mp given
    -- What was read has its members in order, so that sorting them once more changes nothing.
    have again := toMembers?_ofMembers fun m member =>
      restores_toMembers? finite read m (Json.mem_sortMembers member)
    rw [id, Json.ofMembers, ofJson, toJson?, again, Option.map_some, Json.ofMembers,
      Json.sortMembers_of_sorted (Json.sorted_sortMembers ms)]
theorem restores_toItems? : ∀ {ts : List Tree} {vs : List Json}, itemsFinite ts = true →
    toItems? ts = some vs → toItems? (ofItems vs) = some vs
  | [], _, _, given => by
    cases given
    rfl
  | t :: ts, _, finite, given => by
    obtain ⟨first, rest⟩ := Bool.and_eq_true_iff.mp finite
    simp only [toItems?, Option.bind_eq_bind, Option.bind_eq_some_iff, Option.pure_def,
      Option.some.injEq] at given
    obtain ⟨v, read, vs, others, rfl⟩ := given
    have again : (ofJson v).toJson? = some v := restores_toJson? first v read
    rw [ofItems, toItems?, again, restores_toItems? rest others]
    rfl
theorem restores_toMembers? : ∀ {ts : List (Tree × Tree)} {ms : List (String × Json)},
    valuesFinite ts = true → toMembers? ts = some ms → ∀ m ∈ ms, (ofJson m.2).toJson? = some m.2
  | [], _, _, given => by
    cases given
    exact nofun
  | (k, t) :: ts, _, finite, given => by
    obtain ⟨first, rest⟩ := Bool.and_eq_true_iff.mp finite
    cases k with
    | str key =>
      simp only [toMembers?, Option.bind_eq_bind, Option.bind_eq_some_iff, Option.pure_def,
        Option.some.injEq] at given
      obtain ⟨v, read, ms, others, rfl⟩ := given
      exact List.forall_mem_cons.mpr ⟨restores_toJson? first v read, restores_toMembers? rest others⟩
    | _ => contradiction
end

theorem lossless_value : Lossless toJson? id := by
  refine ⟨restores_toJson?, fun {t v} finite given null => ?_⟩
  cases t with
  | null => rfl
  | num n =>
    obtain rfl := Option.some.inj (toJson?_num finite ▸ given)
    cases null
  | list _ items =>
    obtain ⟨vs, -, rfl⟩ := Option.map_eq_some_iff.mp given
    cases null
  | record _ members =>
    obtain ⟨ms, -, rfl⟩ := Option.map_eq_some_iff.mp given
    cases null
  | bool _ | str _ =>
    cases given
    cases null
  | text _ _ _ | unreadable => cases given

end Tree
end ApiAtlas
